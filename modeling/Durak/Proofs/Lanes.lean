import Durak.Proofs.Moves

/-!
# Lanes

The lanes of a service with commands in flight are orderly: the lane that a game has now is held by
exactly the commands that are in it, and whoever is past the queue is the first holder of its lane
(`InOrder`).  Every move keeps the order, whoever moves (`Move.orderly`), and so does every run
(`Orderly.run`).

Two commands with the same game are then never past its queue together (`Orderly.same_of_inside`),
and a game has a lane exactly while some command is in its queue or past it
(`Orderly.isSome_current_iff`).
-/

set_option autoImplicit false

namespace Durak

namespace Traffic

variable {traffic : Traffic} {sent other : Sent} {stage old new : Stage}

/-! ## Holders of a lane -/

theorem find?_changeHolders (change : List Nat → List Nat) (lane target : Nat)
    (lanes : List Lane) :
    (changeHolders change lane lanes).find? (fun other => other.number == target) =
      (lanes.find? fun other => other.number == target).map fun found =>
        if target = lane then { found with holders := change found.holders } else found := by
  induction lanes with
  | nil => rfl
  | cons first rest hypothesis =>
    rw [changeHolders, updateFirst]
    by_cases isLane : first.number = lane
    · subst isLane
      by_cases isTarget : first.number = target
      · simp [isTarget]
      · simp [isTarget, Ne.symm isTarget]
    · rw [changeHolders] at hypothesis
      by_cases isTarget : first.number = target
      · simp [isTarget ▸ isLane, isTarget]
      · simp [isLane, isTarget, hypothesis]

variable {change : List Nat → List Nat} {lane : Nat}

theorem holders_changeHolders_self (isLane : lane ∈ traffic.lanes.map Lane.number) :
    ({ traffic with lanes := changeHolders change lane traffic.lanes }).holders lane =
      change (traffic.holders lane) := by
  rw [holders, holders, find?_changeHolders]
  obtain ⟨found, member, isNumber⟩ := List.mem_map.mp isLane
  cases isFound : traffic.lanes.find? fun other => other.number == lane with
  | none => exact absurd (List.find?_eq_none.mp isFound found member) (by simp [isNumber])
  | some first => simp

theorem holders_changeHolders_of_ne {target : Nat} (apart : target ≠ lane) :
    ({ traffic with lanes := changeHolders change lane traffic.lanes }).holders target =
      traffic.holders target := by
  rw [holders, holders, find?_changeHolders]
  simp [apart]

theorem numbers_changeHolders (change : List Nat → List Nat) (lane : Nat) (lanes : List Lane) :
    (changeHolders change lane lanes).map Lane.number = lanes.map Lane.number :=
  map_updateFirst Lane.number fun _ _ => rfl

theorem holders_of_not_mem (absent : lane ∉ traffic.lanes.map Lane.number) :
    traffic.holders lane = [] := by
  have isNone : (traffic.lanes.find? fun other => other.number == lane) = none := by
    rw [List.find?_eq_none]
    intro other member isNumber
    exact absent (List.mem_map.mpr ⟨other, member, by simpa using isNumber⟩)
  rw [holders, isNone]
  rfl

/-! ## Order -/

/-- The lane that a game has now is held by exactly the commands that are in it, and whoever is past
its queue is the first of them. -/
structure InOrder (traffic : Traffic) (gameId : String) (lane : Nat) : Prop where
  isOpened : lane < traffic.opened
  held : traffic.holders lane ≠ []
  once : (traffic.holders lane).Nodup
  holder {number : Nat} : number ∈ traffic.holders lane →
    ∃ sent stage, traffic.At sent stage ∧ sent.number = number ∧ stage.lane? = some (gameId, lane)
  holds {sent : Sent} {stage : Stage} : traffic.At sent stage →
    stage.lane? = some (gameId, lane) → sent.number ∈ traffic.holders lane
  first {sent : Sent} {stage : Stage} : traffic.At sent stage →
    stage.inside? = some (gameId, lane) → (traffic.holders lane).head? = some sent.number

/-- What holds of the lanes between any two steps. -/
structure Orderly (traffic : Traffic) : Prop where
  numbered : traffic.lanes.map Lane.number = List.range traffic.opened
  keysDistinct : (traffic.current.map Prod.fst).Nodup
  inOrder {gameId : String} {lane : Nat} :
    traffic.current.lookup gameId = some lane → traffic.InOrder gameId lane
  isCurrent {sent : Sent} {stage : Stage} {gameId : String} {lane : Nat} :
    traffic.At sent stage → stage.lane? = some (gameId, lane) →
      traffic.current.lookup gameId = some lane

variable {gameId : String}

theorem Orderly.holds (orderly : traffic.Orderly) (stands : traffic.At sent stage)
    (inLane : stage.lane? = some (gameId, lane)) : sent.number ∈ traffic.holders lane :=
  (orderly.inOrder (orderly.isCurrent stands inLane)).holds stands inLane

theorem Orderly.first (orderly : traffic.Orderly) (stands : traffic.At sent stage)
    (isInside : stage.inside? = some (gameId, lane)) :
    (traffic.holders lane).head? = some sent.number :=
  (orderly.inOrder (orderly.isCurrent stands (Stage.lane?_of_inside? isInside))).first stands
    isInside

/-- Somebody is in a lane that a game has. -/
theorem InOrder.exists_at (inOrder : traffic.InOrder gameId lane) :
    ∃ sent stage, traffic.At sent stage ∧ stage.lane? = some (gameId, lane) := by
  obtain ⟨number, isHolder⟩ := List.exists_mem_of_ne_nil _ inOrder.held
  obtain ⟨sent, stage, stands, -, inLane⟩ := inOrder.holder isHolder
  exact ⟨sent, stage, stands, inLane⟩

/-- Two games never have the same lane. -/
theorem Orderly.game_unique {otherId : String} (orderly : traffic.Orderly)
    (isCurrent : traffic.current.lookup gameId = some lane)
    (otherCurrent : traffic.current.lookup otherId = some lane) : gameId = otherId := by
  obtain ⟨number, isHolder⟩ := List.exists_mem_of_ne_nil _ (orderly.inOrder isCurrent).held
  obtain ⟨sent, stage, stands, sameNumber, inLane⟩ := (orderly.inOrder isCurrent).holder isHolder
  obtain ⟨other, there, otherStands, otherNumber, otherLane⟩ :=
    (orderly.inOrder otherCurrent).holder isHolder
  obtain ⟨-, rfl⟩ := stands.unique otherStands (sameNumber.trans otherNumber.symm)
  exact congrArg Prod.fst (Option.some.inj (inLane.symm.trans otherLane))

/-- At most one command of a game is past the queue. -/
theorem Orderly.same_of_inside {there : Stage} {otherLane : Nat} (orderly : traffic.Orderly)
    (stands : traffic.At sent stage) (isInside : stage.inside? = some (gameId, lane))
    (otherStands : traffic.At other there)
    (otherInside : there.inside? = some (gameId, otherLane)) : sent = other := by
  have isCurrent := orderly.isCurrent stands (Stage.lane?_of_inside? isInside)
  have otherCurrent := orderly.isCurrent otherStands (Stage.lane?_of_inside? otherInside)
  obtain rfl : lane = otherLane := Option.some.inj (isCurrent.symm.trans otherCurrent)
  have sameNumber : sent.number = other.number := Option.some.inj
    ((orderly.first stands isInside).symm.trans (orderly.first otherStands otherInside))
  exact (stands.unique otherStands sameNumber).1

/-- A game has a lane exactly while some command is in its queue or past it. -/
theorem Orderly.isSome_current_iff (orderly : traffic.Orderly) :
    (traffic.current.lookup gameId).isSome ↔
      ∃ sent stage lane, traffic.At sent stage ∧ stage.lane? = some (gameId, lane) := by
  constructor
  · intro isSome
    obtain ⟨lane, isCurrent⟩ := Option.isSome_iff_exists.mp isSome
    obtain ⟨sent, stage, stands, inLane⟩ := (orderly.inOrder isCurrent).exists_at
    exact ⟨sent, stage, lane, stands, inLane⟩
  · rintro ⟨sent, stage, lane, stands, inLane⟩
    rw [orderly.isCurrent stands inLane]
    rfl

/-- A step of a command that has nothing to do with a lane keeps the lane in order. -/
theorem InOrder.frame {moved : Traffic} (inOrder : traffic.InOrder gameId lane)
    (sameFlights : moved.flights = traffic.flights) (stands : traffic.At sent old)
    (notBefore : old.lane? ≠ some (gameId, lane)) (notAfter : new.lane? ≠ some (gameId, lane))
    (opened_le : traffic.opened ≤ moved.opened)
    (sameHolders : moved.holders lane = traffic.holders lane) :
    (moved.setStage sent.number new).InOrder gameId lane := by
  have position (other : Sent) (stage : Stage) (inLane : stage.lane? = some (gameId, lane)) :
      (moved.setStage sent.number new).At other stage ↔ traffic.At other stage := by
    rw [at_setStage_iff sameFlights stands]
    constructor
    · rintro (⟨-, rfl⟩ | ⟨-, otherStands⟩)
      · exact absurd inLane notAfter
      · exact otherStands
    · intro otherStands
      refine .inr ⟨?_, otherStands⟩
      rintro rfl
      exact notBefore ((otherStands.unique stands rfl).2 ▸ inLane)
  refine ⟨Nat.lt_of_lt_of_le inOrder.isOpened opened_le, ?_, ?_, ?_, ?_, ?_⟩ <;>
    rw [holders_setStage, sameHolders]
  · exact inOrder.held
  · exact inOrder.once
  · intro number isHolder
    obtain ⟨other, stage, otherStands, sameNumber, inLane⟩ := inOrder.holder isHolder
    exact ⟨other, stage, (position _ _ inLane).mpr otherStands, sameNumber, inLane⟩
  · intro other stage otherStands inLane
    exact inOrder.holds ((position _ _ inLane).mp otherStands) inLane
  · intro other stage otherStands isInside
    exact inOrder.first ((position _ _ (Stage.lane?_of_inside? isInside)).mp otherStands) isInside

/-! ## Staying where one is -/

/-- A move that leaves the lanes alone keeps them orderly, if the command stays in its lane and gets
past the queue only as its first holder. -/
theorem Orderly.stay (orderly : traffic.Orderly) (stands : traffic.At sent old) (service : Service)
    (log : Log) (sameLane : new.lane? = old.lane?)
    (isFirst : ∀ gameId lane, new.inside? = some (gameId, lane) →
      (traffic.holders lane).head? = some sent.number) :
    ({ traffic with service, log }.setStage sent.number new).Orderly := by
  have position (other : Sent) (stage : Stage) :
      ({ traffic with service, log }.setStage sent.number new).At other stage ↔
        (other = sent ∧ stage = new) ∨ (other ≠ sent ∧ traffic.At other stage) :=
    at_setStage_iff rfl stands
  refine ⟨orderly.numbered, orderly.keysDistinct, ?_, ?_⟩
  · intro gameId lane isCurrent
    have inOrder := orderly.inOrder isCurrent
    refine ⟨inOrder.isOpened, inOrder.held, inOrder.once, ?_, ?_, ?_⟩
    · intro number isHolder
      obtain ⟨other, there, otherStands, sameNumber, inLane⟩ := inOrder.holder isHolder
      by_cases same : other = sent
      · subst same
        obtain ⟨-, rfl⟩ := otherStands.unique stands rfl
        exact ⟨other, new, (position _ _).mpr (.inl ⟨rfl, rfl⟩), sameNumber,
          sameLane.trans inLane⟩
      · exact ⟨other, there, (position _ _).mpr (.inr ⟨same, otherStands⟩), sameNumber, inLane⟩
    · intro other there otherStands inLane
      rcases (position _ _).mp otherStands with ⟨rfl, rfl⟩ | ⟨-, otherStands⟩
      · exact inOrder.holds stands (sameLane.symm.trans inLane)
      · exact inOrder.holds otherStands inLane
    · intro other there otherStands isInside
      rcases (position _ _).mp otherStands with ⟨rfl, rfl⟩ | ⟨-, otherStands⟩
      · exact isFirst gameId lane isInside
      · exact inOrder.first otherStands isInside
  · intro other there gameId lane otherStands inLane
    rcases (position _ _).mp otherStands with ⟨rfl, rfl⟩ | ⟨-, otherStands⟩
    · exact orderly.isCurrent stands (sameLane.symm.trans inLane)
    · exact orderly.isCurrent otherStands inLane

/-! ## Joining a lane -/

/-- What joining the lane of a game does. -/
structure Joined (traffic : Traffic) (number : Nat) (gameId : String) (lane : Nat)
    (joined : Traffic) : Prop where
  sameFlights : joined.flights = traffic.flights
  numbered : joined.lanes.map Lane.number = List.range joined.opened
  keysDistinct : (joined.current.map Prod.fst).Nodup
  isOpened : lane < joined.opened
  opened_le : traffic.opened ≤ joined.opened
  isCurrent : joined.current.lookup gameId = some lane
  current_of_ne {other : String} :
    other ≠ gameId → joined.current.lookup other = traffic.current.lookup other
  holders_self : joined.holders lane = traffic.holders lane ++ [number]
  holders_of_ne {other : Nat} : other ≠ lane → joined.holders other = traffic.holders other
  origin : traffic.current.lookup gameId = some lane ∨
    traffic.current.lookup gameId = none ∧ traffic.opened ≤ lane ∧ traffic.holders lane = []

theorem Orderly.mem_numbers_iff (orderly : traffic.Orderly) :
    lane ∈ traffic.lanes.map Lane.number ↔ lane < traffic.opened := by
  rw [orderly.numbered, List.mem_range]

/-- The traffic with a new lane for a game, which nobody holds yet. -/
def opening (traffic : Traffic) (gameId : String) : Traffic :=
  { traffic with
    lanes := traffic.lanes ++ [Lane.mk traffic.opened gameId []]
    current := insertKeyed gameId traffic.opened traffic.current
    opened := traffic.opened + 1 }

/-- A lane without holders has the holders of a lane that is not there. -/
theorem holders_opening (traffic : Traffic) (gameId : String) (lane : Nat) :
    (traffic.opening gameId).holders lane = traffic.holders lane := by
  rw [holders, holders, opening, List.find?_append]
  cases isFound : traffic.lanes.find? fun other => other.number == lane with
  | some found => rfl
  | none => by_cases isLast : traffic.opened = lane <;> simp [isLast]

theorem join_of_some (number : Nat) (isCurrent : traffic.current.lookup gameId = some lane) :
    traffic.join number gameId =
      (lane, { traffic with lanes := changeHolders (· ++ [number]) lane traffic.lanes }) := by
  rw [join, laneOf, isCurrent]

theorem join_of_none (number : Nat) (absent : traffic.current.lookup gameId = none) :
    traffic.join number gameId =
      (traffic.opened, { traffic.opening gameId with
        lanes :=
          changeHolders (· ++ [number]) traffic.opened (traffic.opening gameId).lanes }) := by
  rw [join, laneOf, absent]
  rfl

theorem join_keeps (number : Nat) (gameId : String) :
    (traffic.join number gameId).2.flights = traffic.flights ∧
      (traffic.join number gameId).2.service = traffic.service := by
  cases isCurrent : traffic.current.lookup gameId with
  | some lane => rw [join_of_some number isCurrent]; exact ⟨rfl, rfl⟩
  | none => rw [join_of_none number isCurrent]; exact ⟨rfl, rfl⟩

theorem Move.sameFlights {moved : Traffic} (move : traffic.Move sent old new moved) :
    moved.flights = traffic.flights := by
  cases move with
  | join => exact (join_keeps _ _).1
  | _ => rfl

theorem Orderly.join_joined (orderly : traffic.Orderly) (number : Nat) (gameId : String) :
    traffic.Joined number gameId (traffic.join number gameId).1
      (traffic.join number gameId).2 := by
  cases isCurrent : traffic.current.lookup gameId with
  | some lane =>
    have isLane := orderly.mem_numbers_iff.mpr (orderly.inOrder isCurrent).isOpened
    simp only [join_of_some number isCurrent]
    exact {
      sameFlights := rfl
      numbered := (numbers_changeHolders (· ++ [number]) lane _).trans orderly.numbered
      keysDistinct := orderly.keysDistinct
      isOpened := (orderly.inOrder isCurrent).isOpened
      opened_le := Nat.le_refl _
      isCurrent := isCurrent
      current_of_ne := fun _ => rfl
      holders_self := holders_changeHolders_self isLane
      holders_of_ne := holders_changeHolders_of_ne
      origin := .inl isCurrent }
  | none =>
    have isNew : traffic.opened ∉ traffic.lanes.map Lane.number :=
      fun isLane => absurd (orderly.mem_numbers_iff.mp isLane) (Nat.lt_irrefl _)
    have numbered : (traffic.opening gameId).lanes.map Lane.number =
        List.range (traffic.opened + 1) := by
      rw [opening, List.map_append, orderly.numbered, List.range_succ]
      rfl
    have isLane : traffic.opened ∈ (traffic.opening gameId).lanes.map Lane.number := by
      rw [numbered, List.mem_range]
      exact Nat.lt_succ_self _
    have absent := lookup_eq_none_iff_keys.mp isCurrent
    simp only [join_of_none number isCurrent]
    exact {
      sameFlights := rfl
      numbered := (numbers_changeHolders (· ++ [number]) traffic.opened _).trans numbered
      keysDistinct := (keys_insertKeyed_perm _ absent).nodup_iff.mpr
        (List.nodup_cons.mpr ⟨absent, orderly.keysDistinct⟩)
      isOpened := Nat.lt_succ_self _
      opened_le := Nat.le_succ _
      isCurrent := lookup_insertKeyed_self _ _ _
      current_of_ne := fun apart => lookup_insertKeyed_of_ne apart _ _
      holders_self := (holders_changeHolders_self isLane).trans
        (congrArg (· ++ [number]) (holders_opening traffic gameId _))
      holders_of_ne := fun apart =>
        (holders_changeHolders_of_ne apart).trans (holders_opening traffic gameId _)
      origin := .inr ⟨isCurrent, Nat.le_refl _, holders_of_not_mem isNew⟩ }

section

variable {joined : Traffic} {number : Nat}

/-- The lanes of other games are other lanes. -/
theorem Joined.apart {otherLane : Nat} {otherId : String}
    (joins : traffic.Joined number gameId lane joined) (orderly : traffic.Orderly)
    (otherGame : otherId ≠ gameId) (isCurrent : traffic.current.lookup otherId = some otherLane) :
    otherLane ≠ lane := by
  rintro rfl
  rcases joins.origin with mine | ⟨-, isNew, -⟩
  · exact otherGame (orderly.game_unique isCurrent mine)
  · exact absurd (orderly.inOrder isCurrent).isOpened (Nat.not_lt.mpr isNew)

/-- Whoever holds a lane that is joined was in it before. -/
theorem Joined.holder {holder : Nat} (joins : traffic.Joined number gameId lane joined)
    (orderly : traffic.Orderly) (isHolder : holder ∈ traffic.holders lane) :
    ∃ sent stage, traffic.At sent stage ∧ sent.number = holder ∧
      stage.lane? = some (gameId, lane) := by
  rcases joins.origin with isCurrent | ⟨-, -, isEmpty⟩
  · exact (orderly.inOrder isCurrent).holder isHolder
  · rw [isEmpty] at isHolder
    cases isHolder

theorem Entered.lane? (entered : traffic.Entered number gameId lane stage) :
    stage.lane? = some (gameId, lane) := by
  cases entered <;> rfl

theorem Entered.isFirst {place : String × Nat}
    (entered : traffic.Entered number gameId lane stage) (isInside : stage.inside? = some place) :
    (traffic.holders place.2).head? = some number := by
  cases entered with
  | first isFirst =>
    cases isInside
    exact isFirst
  | queue => cases isInside

/-- The lane that a command has joined. -/
theorem Joined.inOrder (joins : traffic.Joined sent.number gameId lane joined)
    (orderly : traffic.Orderly) (stands : traffic.At sent old) (laneless : old.lane? = none)
    (entered : joined.Entered sent.number gameId lane new) :
    (joined.setStage sent.number new).InOrder gameId lane := by
  -- whoever was in a lane before is somebody else
  have apart {other : Sent} {there : Stage} {place : String × Nat}
      (otherStands : traffic.At other there) (inLane : there.lane? = some place) :
      other ≠ sent := by
    rintro rfl
    cases laneless.symm.trans ((otherStands.unique stands rfl).2 ▸ inLane)
  refine ⟨joins.isOpened, ?_, ?_, ?_, ?_, ?_⟩ <;> rw [holders_setStage]
  · simp [joins.holders_self]
  · rw [joins.holders_self]
    refine List.Nodup.append ?_ (List.nodup_singleton _) ?_
    · rcases joins.origin with isCurrent | ⟨-, -, isEmpty⟩
      · exact (orderly.inOrder isCurrent).once
      · exact isEmpty ▸ List.nodup_nil
    · rw [List.disjoint_singleton]
      intro isHolder
      obtain ⟨other, there, otherStands, sameNumber, inLane⟩ := joins.holder orderly isHolder
      exact apart otherStands inLane (otherStands.unique stands sameNumber).1
  · intro number isHolder
    rw [joins.holders_self, List.mem_append, List.mem_singleton] at isHolder
    rcases isHolder with isHolder | rfl
    · obtain ⟨other, there, otherStands, sameNumber, inLane⟩ := joins.holder orderly isHolder
      exact ⟨other, there, otherStands.stays (apart otherStands inLane) stands joins.sameFlights,
        sameNumber, inLane⟩
    · exact ⟨sent, new, stands.moved joins.sameFlights, rfl, entered.lane?⟩
  · intro other there otherStands inLane
    rw [joins.holders_self]
    rcases (at_setStage_iff joins.sameFlights stands).mp otherStands with
      ⟨rfl, -⟩ | ⟨-, otherStands⟩
    · exact List.mem_append_right _ List.mem_cons_self
    · exact List.mem_append_left _ (orderly.holds otherStands inLane)
  · intro other there otherStands isInside
    rcases (at_setStage_iff joins.sameFlights stands).mp otherStands with
      ⟨rfl, rfl⟩ | ⟨-, otherStands⟩
    · exact entered.isFirst isInside
    · rw [joins.holders_self, List.head?_append, orderly.first otherStands isInside]
      rfl

theorem Orderly.join (orderly : traffic.Orderly) (stands : traffic.At sent old)
    (laneless : old.lane? = none) (joins : traffic.Joined sent.number gameId lane joined)
    (entered : joined.Entered sent.number gameId lane new) :
    (joined.setStage sent.number new).Orderly := by
  refine ⟨joins.numbered, joins.keysDistinct, ?_, ?_⟩
  · intro otherId otherLane isCurrent
    by_cases mine : otherId = gameId
    · subst mine
      obtain rfl := Option.some.inj (joins.isCurrent.symm.trans isCurrent)
      exact joins.inOrder orderly stands laneless entered
    · have isCurrent := (joins.current_of_ne mine).symm.trans isCurrent
      refine (orderly.inOrder isCurrent).frame joins.sameFlights stands ?_ ?_ joins.opened_le
        (joins.holders_of_ne (joins.apart orderly mine isCurrent))
      · simp [laneless]
      · simp [entered.lane?, Ne.symm mine]
  · intro other there otherId otherLane otherStands inLane
    rcases (at_setStage_iff joins.sameFlights stands).mp otherStands with
      ⟨rfl, rfl⟩ | ⟨-, otherStands⟩
    · cases inLane.symm.trans entered.lane?
      exact joins.isCurrent
    · have isCurrent := orderly.isCurrent otherStands inLane
      by_cases mine : otherId = gameId
      · subst mine
        rcases joins.origin with same | ⟨absent, -⟩
        · exact joins.isCurrent.trans (same.symm.trans isCurrent)
        · cases absent.symm.trans isCurrent
      · exact (joins.current_of_ne mine).trans isCurrent

end

/-! ## Leaving a lane -/

/-- What the first holder does by leaving its lane. -/
structure Left (traffic : Traffic) (number : Nat) (gameId : String) (lane : Nat) (left : Traffic) :
    Prop where
  sameFlights : left.flights = traffic.flights
  sameOpened : left.opened = traffic.opened
  numbered : left.lanes.map Lane.number = List.range left.opened
  keysDistinct : (left.current.map Prod.fst).Nodup
  current_self : left.current.lookup gameId =
    if traffic.holders lane = [number] then none else some lane
  current_of_ne {other : String} :
    other ≠ gameId → left.current.lookup other = traffic.current.lookup other
  holders_self : left.holders lane = (traffic.holders lane).erase number
  holders_of_ne {other : Nat} : other ≠ lane → left.holders other = traffic.holders other

theorem Orderly.leave_left (orderly : traffic.Orderly) {number : Nat}
    (isCurrent : traffic.current.lookup gameId = some lane)
    (isFirst : (traffic.holders lane).head? = some number) :
    traffic.Left number gameId lane (traffic.leave number gameId lane) := by
  have isLane := orderly.mem_numbers_iff.mpr (orderly.inOrder isCurrent).isOpened
  have alone : (traffic.holders lane).length = 1 ↔ traffic.holders lane = [number] := by
    obtain ⟨later, holdersAre⟩ := List.head?_eq_some_iff.mp isFirst
    simp [holdersAre]
  have numbered : (traffic.leave number gameId lane).lanes.map Lane.number =
      List.range traffic.opened := by
    rw [leave, numbers_changeHolders, orderly.numbered]
  have currentIs : (traffic.leave number gameId lane).current =
      if traffic.holders lane = [number] then eraseKeyed gameId traffic.current
      else traffic.current := by
    simp [leave, isCurrent, alone]
  refine ⟨rfl, rfl, numbered, ?_, ?_, ?_, holders_changeHolders_self isLane,
    holders_changeHolders_of_ne⟩ <;> rw [currentIs]
  · split
    · exact (keys_eraseKeyed_sublist gameId traffic.current).nodup orderly.keysDistinct
    · exact orderly.keysDistinct
  · split
    · exact lookup_eraseKeyed_self orderly.keysDistinct
    · exact isCurrent
  · intro otherId apart
    split
    · exact lookup_eraseKeyed_of_ne apart traffic.current
    · rfl

section

variable {left : Traffic}

/-- The lane that a command has left, if others are still in it. -/
theorem Left.inOrder (leaves : traffic.Left sent.number gameId lane left)
    (orderly : traffic.Orderly) (stands : traffic.At sent old)
    (isInside : old.inside? = some (gameId, lane)) (laneless : new.lane? = none)
    (shared : traffic.holders lane ≠ [sent.number]) :
    (left.setStage sent.number new).InOrder gameId lane := by
  have inOrder := orderly.inOrder (orderly.isCurrent stands (Stage.lane?_of_inside? isInside))
  -- whoever is in a lane now was there before, and is somebody else
  have remains {other : Sent} {there : Stage} {place : String × Nat}
      (otherStands : (left.setStage sent.number new).At other there)
      (inLane : there.lane? = some place) :
      other.number ≠ sent.number ∧ traffic.At other there := by
    rcases (at_setStage_iff leaves.sameFlights stands).mp otherStands with
      ⟨-, rfl⟩ | ⟨apart, otherStands⟩
    · cases laneless.symm.trans inLane
    · exact ⟨fun same => apart (otherStands.unique stands same).1, otherStands⟩
  obtain ⟨later, holdersAre⟩ := List.head?_eq_some_iff.mp (inOrder.first stands isInside)
  refine ⟨leaves.sameOpened ▸ inOrder.isOpened, ?_, ?_, ?_, ?_, ?_⟩ <;>
    rw [holders_setStage, leaves.holders_self]
  · rw [holdersAre, List.erase_cons_head]
    rintro rfl
    exact shared holdersAre
  · exact inOrder.once.erase _
  · intro number isHolder
    obtain ⟨apart, isHolder⟩ := inOrder.once.mem_erase_iff.mp isHolder
    obtain ⟨other, there, otherStands, sameNumber, inLane⟩ := inOrder.holder isHolder
    refine ⟨other, there, otherStands.stays ?_ stands leaves.sameFlights, sameNumber, inLane⟩
    rintro rfl
    exact apart sameNumber.symm
  · intro other there otherStands inLane
    obtain ⟨apart, otherStands⟩ := remains otherStands inLane
    exact inOrder.once.mem_erase_iff.mpr ⟨apart, inOrder.holds otherStands inLane⟩
  · intro other there otherStands otherInside
    obtain ⟨apart, otherStands⟩ := remains otherStands (Stage.lane?_of_inside? otherInside)
    have sameNumber := Option.some.inj
      ((inOrder.first otherStands otherInside).symm.trans (inOrder.first stands isInside))
    exact absurd sameNumber apart

theorem Orderly.leave (orderly : traffic.Orderly) (stands : traffic.At sent old)
    (isInside : old.inside? = some (gameId, lane)) (laneless : new.lane? = none)
    (leaves : traffic.Left sent.number gameId lane left) :
    (left.setStage sent.number new).Orderly := by
  have inLane := Stage.lane?_of_inside? isInside
  have mineCurrent := orderly.isCurrent stands inLane
  refine ⟨leaves.numbered, leaves.keysDistinct, ?_, ?_⟩
  · intro otherId otherLane isCurrent
    by_cases mine : otherId = gameId
    · subst mine
      have isSome := leaves.current_self.symm.trans isCurrent
      split at isSome
      · cases isSome
      · rename_i shared
        cases isSome
        exact leaves.inOrder orderly stands isInside laneless shared
    · have isCurrent := (leaves.current_of_ne mine).symm.trans isCurrent
      refine (orderly.inOrder isCurrent).frame leaves.sameFlights stands ?_ ?_
        (Nat.le_of_eq leaves.sameOpened.symm) (leaves.holders_of_ne ?_)
      · simp [inLane, Ne.symm mine]
      · simp [laneless]
      · rintro rfl
        exact mine (orderly.game_unique isCurrent mineCurrent)
  · intro other there otherId otherLane otherStands otherInLane
    rcases (at_setStage_iff leaves.sameFlights stands).mp otherStands with
      ⟨-, rfl⟩ | ⟨apart, otherStands⟩
    · cases laneless.symm.trans otherInLane
    · have isCurrent := orderly.isCurrent otherStands otherInLane
      by_cases mine : otherId = gameId
      · subst mine
        obtain rfl := Option.some.inj (mineCurrent.symm.trans isCurrent)
        refine leaves.current_self.trans (if_neg ?_)
        intro alone
        have isHolder := orderly.holds otherStands otherInLane
        rw [alone, List.mem_singleton] at isHolder
        exact apart (otherStands.unique stands isHolder).1
      · exact (leaves.current_of_ne mine).trans isCurrent

end

/-! ## Runs -/

theorem Move.orderly {moved : Traffic} (move : traffic.Move sent old new moved)
    (stands : traffic.At sent old) (orderly : traffic.Orderly) :
    (moved.setStage sent.number new).Orderly := by
  cases move with
  | unreadable | route | find | turnAway =>
    exact orderly.stay stands _ _ rfl fun _ _ isInside => nomatch isInside
  | join entered => exact orderly.join stands rfl (orderly.join_joined _ _) entered
  | wait entered =>
    refine orderly.stay stands _ _ entered.lane? fun gameId lane isInside => ?_
    exact entered.isFirst isInside
  | fail | prepare | save =>
    refine orderly.stay stands _ _ rfl fun gameId lane isInside => ?_
    exact orderly.first stands isInside
  | leave =>
    exact orderly.leave stands rfl rfl
      (orderly.leave_left (orderly.isCurrent stands rfl) (orderly.first stands rfl))

/-- Whoever takes a step, the lanes stay in order. -/
theorem Orderly.step (orderly : traffic.Orderly) (number : Nat) :
    (traffic.step number).Orderly := by
  rcases step_cases traffic number with same | ⟨sent, old, new, moved, rfl, stands, move, stepIs⟩
  · rw [same]
    exact orderly
  · rw [stepIs]
    exact move.orderly stands orderly

theorem at_arriving {service : Service} {commands : List (List UInt8 × Instant)}
    (stands : (arriving service commands).At sent stage) : stage = .arrived := by
  rw [At, arriving, List.getElem?_map] at stands
  obtain ⟨command, -, isArrived⟩ := Option.map_eq_some_iff.mp stands
  exact (congrArg Flight.stage isArrived).symm

theorem orderly_arriving (service : Service) (commands : List (List UInt8 × Instant)) :
    (arriving service commands).Orderly where
  numbered := rfl
  keysDistinct := List.nodup_nil
  inOrder isCurrent := nomatch isCurrent
  isCurrent stands inLane := by
    rw [at_arriving stands] at inLane
    cases inLane

/-- Whatever the schedule, the lanes stay in order. -/
theorem Orderly.run (orderly : traffic.Orderly) (schedule : List Nat) :
    (traffic.run schedule).Orderly := by
  induction schedule generalizing traffic with
  | nil => exact orderly
  | cons number schedule hypothesis => exact hypothesis (orderly.step number)

end Traffic

end Durak
