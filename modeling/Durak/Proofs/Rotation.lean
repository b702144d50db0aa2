import Durak.Proofs.Conservation

/-!
# Who attacks whom

The rules move the attack around the table on four ways: a vote that everyone has joined, an attack
that comes too late, a timer that is found to have run out, and taking the cards.  The first three
move it by one seat, the last one by two.

What carries all of them is `AttacksFrom game place`: the attack comes from a place, counted around
the table, and the defender sits at the next one.  As there are at least two seats and the ids are
distinct, attacker and defender are then two different seated players.  A step moves the place by
what the step is worth (`AttacksFrom.after`), and a run by the sum (`AttacksFrom.afterAll`).
-/

set_option autoImplicit false

namespace Durak

namespace Game

/-! ## The place of the attack -/

/-- The attack comes from a place, counted around the table, and the next place defends. -/
structure AttacksFrom (game : Game) (place : Nat) : Prop where
  distinct : game.seatIds.Nodup
  several : 2 ≤ game.seatIds.length
  attacker : game.seatIds[place % game.seatIds.length]? = some game.attackerId
  defender : game.seatIds[(place + 1) % game.seatIds.length]? = some game.defenderId

theorem seating_eq_of_terms {first second : Game} (same : first.terms = second.terms) :
    first.seating = second.seating :=
  congrArg (fun terms : String × Settings × Suit × List (String × String × UInt8) =>
    terms.2.2.2) same

theorem seatIds_eq_of_terms {first second : Game} (same : first.terms = second.terms) :
    first.seatIds = second.seatIds := seatIds_congr (seating_eq_of_terms same)

namespace AttacksFrom

variable {game : Game} {place : Nat}

/-- The place depends only on the seats and the two roles. -/
theorem congr {other : Game} (attacks : game.AttacksFrom place) (terms : other.terms = game.terms)
    (attacker : other.attackerId = game.attackerId)
    (defender : other.defenderId = game.defenderId) : other.AttacksFrom place := by
  have seats := seatIds_congr (seating_eq_of_terms terms)
  constructor
  · rw [seats]
    exact attacks.distinct
  · rw [seats]
    exact attacks.several
  · rw [seats, attacker]
    exact attacks.attacker
  · rw [seats, defender]
    exact attacks.defender

/-- The seat after a place around the table is the next place. -/
theorem nextSeat?_at (attacks : game.AttacksFrom place) {id : String} {there : Nat}
    (seated : game.seatIds[there % game.seatIds.length]? = some id) :
    game.nextSeat? id = game.seatIds[(there + 1) % game.seatIds.length]? := by
  rw [nextSeat?_of_seated attacks.distinct seated, Nat.mod_add_mod]

/-- There is somebody at every place around the table. -/
theorem exists_seat (attacks : game.AttacksFrom place) (there : Nat) :
    ∃ id, game.seatIds[there % game.seatIds.length]? = some id := by
  have positive : 0 < game.seatIds.length := Nat.lt_of_lt_of_le (by decide) attacks.several
  exact ⟨_, List.getElem?_eq_getElem (Nat.mod_lt there positive)⟩

/-- The defender sits right after the attacker. -/
theorem nextSeat?_attacker (attacks : game.AttacksFrom place) :
    game.nextSeat? game.attackerId = some game.defenderId := by
  rw [attacks.nextSeat?_at attacks.attacker, attacks.defender]

theorem attacker_mem (attacks : game.AttacksFrom place) : game.attackerId ∈ game.seatIds :=
  List.mem_of_getElem? attacks.attacker

theorem defender_mem (attacks : game.AttacksFrom place) : game.defenderId ∈ game.seatIds :=
  List.mem_of_getElem? attacks.defender

/-- A place and the one after it are two places. -/
theorem attacker_ne_defender (attacks : game.AttacksFrom place) :
    game.attackerId ≠ game.defenderId := by
  intro same
  have positive : 0 < game.seatIds.length := Nat.lt_of_lt_of_le (by decide) attacks.several
  have here := attacks.attacker
  rw [same, ← attacks.defender] at here
  have places : place % game.seatIds.length = (place + 1) % game.seatIds.length :=
    (List.getElem?_inj (Nat.mod_lt _ positive) attacks.distinct).mp here
  have several := attacks.several
  rw [← Nat.mod_add_mod] at places
  have inside := Nat.mod_lt place positive
  rcases Nat.lt_or_ge (place % game.seatIds.length + 1) game.seatIds.length with within | last
  · rw [Nat.mod_eq_of_lt within] at places
    omega
  · have whole : place % game.seatIds.length + 1 = game.seatIds.length := by omega
    rw [whole, Nat.mod_self] at places
    omega

theorem position?_attacker (attacks : game.AttacksFrom place) :
    game.position? game.attackerId = some (place % game.players.length) := by
  rw [← length_seatIds]
  exact (position?_eq_some_iff attacks.distinct).mpr attacks.attacker

/-! ## Moving the attack -/

/-- When the roles move on, the attack comes from the next place. -/
theorem switchRoles (attacks : game.AttacksFrom place) :
    game.switchRoles.AttacksFrom (place + 1) := by
  obtain ⟨next, seated⟩ := attacks.exists_seat (place + 1 + 1)
  have after : game.nextSeat? game.defenderId = some next := by
    rw [attacks.nextSeat?_at attacks.defender, seated]
  have moved : game.switchRoles =
      { game with attackerId := game.defenderId, defenderId := next } := by
    unfold Game.switchRoles
    rw [after]
  rw [moved]
  exact ⟨attacks.distinct, attacks.several, attacks.defender, seated⟩

/-- When the attack passes over the defender, it comes from the place after the next. -/
theorem passOver (attacks : game.AttacksFrom place) :
    (game.passOver game.defenderId).AttacksFrom (place + 2) := by
  obtain ⟨attacker, seated⟩ := attacks.exists_seat (place + 1 + 1)
  obtain ⟨defender, beside⟩ := attacks.exists_seat (place + 1 + 1 + 1)
  have after : game.nextSeat? game.defenderId = some attacker := by
    rw [attacks.nextSeat?_at attacks.defender, seated]
  have further : game.nextSeat? attacker = some defender := by
    rw [attacks.nextSeat?_at seated, beside]
  have moved : game.passOver game.defenderId =
      { game with attackerId := attacker, defenderId := defender } := by
    unfold Game.passOver
    rw [after]
    simp only [further]
  rw [moved]
  exact ⟨attacks.distinct, attacks.several, seated, beside⟩

theorem replenishAll (attacks : game.AttacksFrom place) : game.replenishAll.AttacksFrom place :=
  attacks.congr (terms_replenishAll game)
    (replenishAll_keeps attackerId (fun _ _ _ => rfl) game)
    (replenishAll_keeps defenderId (fun _ _ _ => rfl) game)

theorem pushEvent (attacks : game.AttacksFrom place) (event : Event) :
    (game.pushEvent event).AttacksFrom place := attacks.congr rfl rfl rfl

theorem clearTable (attacks : game.AttacksFrom place) : game.clearTable.AttacksFrom place :=
  attacks.congr rfl rfl rfl

/-- A round that is closed with the roles moving on moves the attack by one place. -/
theorem resolveRound_true (attacks : game.AttacksFrom place) :
    (game.resolveRound true).AttacksFrom (place + 1) := by
  rw [resolveRound_eq]
  exact attacks.replenishAll.switchRoles.clearTable.pushEvent .endAttack

theorem resolveRound_false (attacks : game.AttacksFrom place) :
    (game.resolveRound false).AttacksFrom place := by
  rw [resolveRound_eq]
  exact attacks.replenishAll.clearTable.pushEvent .endAttack

theorem endRound (attacks : game.AttacksFrom place) :
    game.endRound.game.AttacksFrom (place + 1) := by
  rcases endRound_game game with same | ⟨result, same⟩ <;> rw [same]
  · exact attacks.resolveRound_true
  · exact attacks.resolveRound_true.pushEvent (.endGame result)

end AttacksFrom

/-! ## What a step is worth -/

/-- Whether a step closes the round and moves the roles on: a vote that everyone else has joined,
an attack that is answered with the attack timer having run out, or a question about a timer that
has run out. -/
def closesRound (game : Game) : Step → Bool
  | .command userId .endAttack now =>
    (game.apply userId .endAttack now).violation == none && (game.voteEnd userId).everyoneEnds
  | .command userId (.attack card) now =>
    (game.apply userId (.attack card) now).violation == some .attackTimeOver
  | .command _ .checkAttackTimer now => game.started && game.timerExpired .attack now
  | .command _ .checkDefendTimer now => game.started && game.timerExpired .defend now
  | _ => false

/-- Whether a step takes up the cards. -/
def takesCards (game : Game) : Step → Bool
  | .command userId .takeAllCards now =>
    (game.apply userId .takeAllCards now).violation == none
  | _ => false

/-- Whether a step closes the round, on any of the ways there are. -/
def endsRound (game : Game) (step : Step) : Bool := game.closesRound step || game.takesCards step

/-- How many steps of a run are of a kind, each judged in the game before it. -/
def countSteps (kind : Game → Step → Bool) : Game → List Step → Nat
  | _, [] => 0
  | game, step :: steps => (kind game step).toNat + countSteps kind (game.after step) steps

theorem countSteps_append (kind : Game → Step → Bool) (game : Game) (first second : List Step) :
    countSteps kind game (first ++ second) =
      countSteps kind game first + countSteps kind (game.afterAll first) second := by
  induction first generalizing game with
  | nil => simp [countSteps]
  | cons step first hypothesis =>
    rw [List.cons_append, countSteps, countSteps, hypothesis, afterAll_cons, Nat.add_assoc]

/-- By how many places a step moves the attack. -/
def places (game : Game) (step : Step) : Nat :=
  (game.closesRound step).toNat + 2 * (game.takesCards step).toNat

/-- A question about a timer closes the round exactly when the timer has run out. -/
theorem closesRound_timer (game : Game) {action : Action} {kind : TimerKind}
    (asks : action.timer? = some kind) (userId : String) (now : Instant) :
    game.closesRound (.command userId action now) =
        (game.started && game.timerExpired kind now) ∧
      game.takesCards (.command userId action now) = false := by
  cases action <;> cases asks <;> exact ⟨rfl, rfl⟩

/-- A question about a timer moves the attack exactly when the timer is found to have run out. -/
theorem places_timer {action : Action} {kind : TimerKind} (asks : action.timer? = some kind)
    (game : Game) (userId : String) (now : Instant) :
    game.places (.command userId action now) =
      (game.started && game.timerExpired kind now).toNat := by
  obtain ⟨closes, takes⟩ := game.closesRound_timer asks userId now
  rw [places, closes, takes]
  rfl

namespace AttacksFrom

theorem withoutCard {game : Game} {place : Nat} (attacks : game.AttacksFrom place)
    (userId : String) (card : Card) : (game.withoutCard userId card).AttacksFrom place :=
  attacks.congr (terms_withoutCard game userId card) rfl rfl

theorem layAttack {game : Game} {place : Nat} (attacks : game.AttacksFrom place)
    (userId : String) (card : Card) (now : Instant) :
    (game.layAttack userId card now).AttacksFrom place :=
  attacks.congr (terms_layAttack game userId card now) rfl rfl

theorem layCover {game : Game} {place : Nat} (attacks : game.AttacksFrom place)
    (userId : String) (target card : Card) (now : Instant) :
    (game.layCover userId target card now).AttacksFrom place :=
  attacks.congr (terms_layCover game userId target card now)
    (layCover_keeps attackerId (fun _ _ _ => rfl) game userId target card now)
    (layCover_keeps defenderId (fun _ _ _ => rfl) game userId target card now)

/-- Taking the cards moves the attack past the one who took them. -/
theorem take {game : Game} {place : Nat} (attacks : game.AttacksFrom place) :
    (((game.takeTable game.defenderId).resolveRound false).passOver game.defenderId).AttacksFrom
      (place + 2) := by
  have taken : (game.takeTable game.defenderId).AttacksFrom place :=
    attacks.congr (terms_takeTable game game.defenderId) rfl rfl
  have same : ((game.takeTable game.defenderId).resolveRound false).defenderId =
      game.defenderId := replenishAll_keeps Game.defenderId (fun _ _ _ => rfl) _
  have passed := taken.resolveRound_false.passOver
  rwa [same] at passed

/-- **A command moves the attack by what it is worth.** -/
theorem apply {game : Game} {place : Nat} (attacks : game.AttacksFrom place)
    (userId : String) (action : Action) (now : Instant) :
    (game.apply userId action now).game.AttacksFrom
      (place + game.places (.command userId action now)) := by
  have effect := apply_effect game userId action now
  generalize verdictIs : (game.apply userId action now).violation = verdict,
    (game.apply userId action now).game = result at effect ⊢
  cases effect with
  | unregistered | readyAgain => exact attacks
  | ready | start => exact attacks.congr rfl rfl rfl
  | attackRefused card violation reported other =>
    have worth : game.places (.command userId (.attack card) now) = 0 := by
      simp [places, closesRound, takesCards, verdictIs, other]
    rw [worth]
    exact attacks
  | attackLate card =>
    have worth : game.places (.command userId (.attack card) now) = 1 := by
      simp [places, closesRound, takesCards, verdictIs]
    rw [worth]
    exact attacks.resolveRound_true
  | attack card =>
    have worth : game.places (.command userId (.attack card) now) = 0 := by
      simp [places, closesRound, takesCards, verdictIs]
    rw [worth]
    exact (attacks.withoutCard userId card).layAttack userId card now
  | defendRefused => exact attacks
  | defendLate => exact attacks.pushEvent .endAttack
  | defend target card => exact (attacks.withoutCard userId card).layCover userId target card now
  | endRefused violation =>
    have worth : game.places (.command userId .endAttack now) = 0 := by
      simp [places, closesRound, takesCards, verdictIs]
    rw [worth]
    exact attacks
  | vote permitted waiting =>
    have worth : game.places (.command userId .endAttack now) = 0 := by
      simp [places, closesRound, takesCards, waiting]
    rw [worth]
    exact attacks.congr rfl rfl rfl
  | endRound permitted everyone =>
    have worth : game.places (.command userId .endAttack now) = 1 := by
      simp [places, closesRound, takesCards, verdictIs, everyone]
    rw [worth]
    exact AttacksFrom.endRound (attacks.congr rfl rfl rfl)
  | takeRefused violation =>
    have worth : game.places (.command userId .takeAllCards now) = 0 := by
      simp [places, closesRound, takesCards, verdictIs]
    rw [worth]
    exact attacks
  | takeUnseated permitted unseated =>
    have seated := isSome_player?_iff.mpr attacks.defender_mem
    rw [← permitted.defender, unseated] at seated
    cases seated
  | take permitted =>
    have worth : game.places (.command userId .takeAllCards now) = 2 := by
      simp [places, closesRound, takesCards, verdictIs]
    rw [worth, permitted.defender]
    exact attacks.take
  | timerRefused kind asks notStarted =>
    rw [places_timer asks, notStarted]
    exact attacks
  | timerClosed kind asks started expired =>
    rw [places_timer asks, started, expired]
    exact attacks.resolveRound_true.pushEvent _
  | timerShown kind asks started running =>
    rw [places_timer asks, running, Bool.and_false]
    exact attacks.pushEvent _

theorem after {game : Game} {place : Nat} (attacks : game.AttacksFrom place) (step : Step) :
    (game.after step).AttacksFrom (place + game.places step) := by
  cases step with
  | command userId action now => exact attacks.apply userId action now
  | handOut => exact attacks.congr rfl rfl rfl

/-- A run moves the attack by what its steps are worth together. -/
theorem afterAll {game : Game} {place : Nat} (attacks : game.AttacksFrom place)
    (steps : List Step) :
    (game.afterAll steps).AttacksFrom
      (place + countSteps closesRound game steps + 2 * countSteps takesCards game steps) := by
  induction steps generalizing game place with
  | nil => exact attacks
  | cons step steps hypothesis =>
    have later := hypothesis (attacks.after step)
    have sum : place + game.places step + countSteps closesRound (game.after step) steps +
          2 * countSteps takesCards (game.after step) steps =
        place + countSteps closesRound game (step :: steps) +
          2 * countSteps takesCards game (step :: steps) := by
      simp only [places, countSteps]
      omega
    rwa [sum] at later

end AttacksFrom

/-- In a dealt game the attack comes from the seat of the first attacker. -/
theorem attacksFrom_of_deal {id : String} {entrants : List Entrant} {settings : Settings}
    {seed : UInt64} {dealt : Game} (isDealt : deal id entrants settings seed = .ok dealt) :
    ∃ place, dealt.AttacksFrom place := by
  obtain ⟨inOrder, trump, cards, attackerSeat, -, -, rfl⟩ := deal_eq_ok isDealt
  obtain ⟨⟨several, -⟩, distinct, -⟩ := setupFault?_eq_none_iff.mp inOrder
  have seats := seatIds_arranged id entrants settings trump cards attackerSeat
  have several : 2 ≤ (entrants.map (·.id)).length := by rwa [List.length_map]
  have around : ∀ place, (entrants.map (·.id))[place % (entrants.map (·.id)).length]? =
      some (idAround (entrants.map (·.id)) place) := by
    intro place
    have inside := Nat.mod_lt place (Nat.lt_of_lt_of_le (by decide : 0 < 2) several)
    rw [idAround, List.getD_eq_getElem?_getD, List.getElem?_eq_getElem inside, Option.getD_some]
  refine ⟨attackerSeat, ?_, ?_, ?_, ?_⟩ <;> rw [seats]
  · exact distinct
  · exact several
  · exact around attackerSeat
  · exact around (attackerSeat + 1)

/-! ## Regular games -/

/-- Whether seats are numbered by their positions depends only on the seating. -/
theorem seatMismatch?_congr {first second : Game} (same : first.seating = second.seating)
    (regular : seatMismatch? 0 first.players = none) :
    seatMismatch? 0 second.players = none := by
  refine seatMismatch?_eq_none_iff.mpr fun offset player there => ?_
  have chair := congrArg (·[offset]?) same
  simp only [seating, List.getElem?_map, there, Option.map_some] at chair
  obtain ⟨other, here, equal⟩ := Option.map_eq_some_iff.mp chair
  have seats : other.seat = player.seat := congrArg (fun chair => chair.2.2) equal
  rw [← seats]
  exact seatMismatch?_eq_none_iff.mp regular offset other here

theorem length_table_layCover (game : Game) (userId : String) (target card : Card)
    (now : Instant) : (game.layCover userId target card now).table.length = game.table.length := by
  rw [layCover_keeps table fun _ _ _ => rfl]
  exact length_updateFirst _ _ _

/-- A card is only laid on a table with room for it. -/
theorem length_table_apply {game : Game} (bounded : game.table.length ≤ tableLimit)
    (userId : String) (action : Action) (now : Instant) :
    (game.apply userId action now).game.table.length ≤ tableLimit := by
  have effect := apply_effect game userId action now
  generalize (game.apply userId action now).violation = verdict,
    (game.apply userId action now).game = result at effect ⊢
  have empty : ([] : List TableEntry).length ≤ tableLimit := Nat.zero_le _
  cases effect with
  | unregistered | readyAgain | attackRefused | defendRefused | endRefused | takeRefused
  | takeUnseated | timerRefused => exact bounded
  | ready | start | defendLate | vote | timerShown => exact bounded
  | attackLate | timerClosed => exact empty
  | attack card permitted =>
    show (game.table ++ [TableEntry.mk card none]).length ≤ tableLimit
    rw [List.length_append, List.length_singleton]
    exact permitted.room
  | defend target card =>
    rw [length_table_layCover]
    exact bounded
  | endRound =>
    rw [table_endRound]
    exact empty
  | take =>
    rw [passOver_keeps table fun _ _ _ => rfl]
    exact empty

theorem length_table_afterAll {game : Game} (bounded : game.table.length ≤ tableLimit)
    (steps : List Step) : (game.afterAll steps).table.length ≤ tableLimit :=
  @invariant_afterAll (fun later => later.table.length ≤ tableLimit)
    (fun later step kept => by
      cases step with
      | command userId action now => exact length_table_apply kept userId action now
      | handOut => exact kept)
    game bounded steps

/-- A game is regular when the attack comes from some place, the table is not overfull, seats are
numbered by their positions, and there are thirty-six cards. -/
theorem irregularity?_eq_none {game : Game} {place : Nat} (attacks : game.AttacksFrom place)
    (table : game.table.length ≤ tableLimit) (seats : seatMismatch? 0 game.players = none)
    (cards : game.cardCount = Card.packSize) : game.irregularity? = none := by
  have attacker := Option.isSome_iff_ne_none.mp (isSome_player?_iff.mpr attacks.attacker_mem)
  have defender := Option.isSome_iff_ne_none.mp (isSome_player?_iff.mpr attacks.defender_mem)
  unfold irregularity?
  rw [if_neg attacks.attacker_ne_defender, if_neg, if_neg (Nat.not_lt.mpr table), seats]
  · simp only [cards, if_true]
  · simp [attacker, defender]

/-- **Seats, roles and table along every run from a deal.**  The game is regular; the table holds
at most six entries; attacker and defender are two different seated players, and the defender sits
right after the attacker; and the attack has moved on from the seat of the first attacker by one
seat for every round closed with the roles moving on, and by two for every time the cards were
taken. -/
theorem attack_rotates_along_runs {id : String} {entrants : List Entrant} {settings : Settings}
    {seed : UInt64} {dealt : Game} (isDealt : deal id entrants settings seed = .ok dealt)
    (steps : List Step) :
    let game := dealt.afterAll steps
    game.irregularity? = none ∧ game.table.length ≤ tableLimit ∧
      game.attackerId ≠ game.defenderId ∧
      game.attackerId ∈ game.seatIds ∧ game.defenderId ∈ game.seatIds ∧
      game.nextSeat? game.attackerId = some game.defenderId ∧
      ∃ first, dealt.position? dealt.attackerId = some first ∧
        game.position? game.attackerId =
          some ((first + countSteps closesRound dealt steps +
            2 * countSteps takesCards dealt steps) % game.players.length) := by
  intro game
  obtain ⟨place, start⟩ := attacksFrom_of_deal isDealt
  have attacks := start.afterAll steps
  have terms : game.terms = dealt.terms := terms_afterAll dealt steps
  have seating := seating_eq_of_terms terms
  have players : game.players.length = dealt.players.length := by
    rw [← length_seatIds, ← length_seatIds, seatIds_congr seating]
  have table : game.table.length ≤ tableLimit ∧ seatMismatch? 0 dealt.players = none := by
    obtain ⟨inOrder, trump, cards, attackerSeat, -, -, rfl⟩ := deal_eq_ok isDealt
    exact ⟨length_table_afterAll (Nat.zero_le _) steps,
      seatMismatch?_arranged id settings trump cards attackerSeat
        (setupFault?_eq_none_iff.mp inOrder).1.2⟩
  have seats := seatMismatch?_congr seating.symm table.2
  refine ⟨irregularity?_eq_none attacks table.1 seats (cardCount_afterAll isDealt steps), table.1,
    attacks.attacker_ne_defender, attacks.attacker_mem, attacks.defender_mem,
    attacks.nextSeat?_attacker, place % dealt.players.length, start.position?_attacker, ?_⟩
  rw [attacks.position?_attacker, players, Nat.add_assoc, Nat.add_assoc (place % _),
    Nat.mod_add_mod]

/-- Two players get ready, the cards are taken, and then a timer is asked for that has run out. -/
theorem attack_rotates_after_taking :
    ∃ dealt, deal "g" [⟨"a", ""⟩, ⟨"b", ""⟩] ⟨Double.ofInt 30⟩ 7 = .ok dealt ∧
      let steps : List Step := [
        .command "a" .ready (.ofUnixSeconds 0), .command "b" .ready (.ofUnixSeconds 0),
        .command "a" .takeAllCards (.ofUnixSeconds 1), .handOut,
        .command "b" .checkAttackTimer (.ofUnixSeconds 60)]
      (dealt.afterAll steps).irregularity? = none ∧
        ∃ first, dealt.position? dealt.attackerId = some first ∧
          (dealt.afterAll steps).position? (dealt.afterAll steps).attackerId =
            some ((first + countSteps closesRound dealt steps +
              2 * countSteps takesCards dealt steps) %
                (dealt.afterAll steps).players.length) := by
  obtain ⟨dealt, isDealt⟩ := exists_deal_eq_ok setupFault?_pair "g" 7
  obtain ⟨regular, -, -, -, -, -, rotated⟩ := attack_rotates_along_runs isDealt [
    .command "a" .ready (.ofUnixSeconds 0), .command "b" .ready (.ofUnixSeconds 0),
    .command "a" .takeAllCards (.ofUnixSeconds 1), .handOut,
    .command "b" .checkAttackTimer (.ofUnixSeconds 60)]
  exact ⟨dealt, isDealt, regular, rotated⟩

end Game

end Durak
