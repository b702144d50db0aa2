import Durak.Proofs.Refill
import Durak.Proofs.Rejection

/-!
# What closing a round does

When a round is closed, the seats draw one after another: the attacker, then the others in the
order in which they sit after the attacker, and the defender in the end.  Each takes what the hand
lacks to six cards, or what is left of the deck if that is less (`dealOut`), from the end of the
deck, so that nobody draws before everybody earlier has six cards or the deck is empty.

`Game.resolveRound_deals` says this for every game in which a defender and another player who
attacks are seated, wherever they sit.  The defender need not sit beside the attacker, and hands,
deck and table may hold whatever they do.
-/

set_option autoImplicit false

namespace Durak

-- sums of natural numbers are those of the core library
attribute [local instance (high)] Zero.ofOfNat0

/-! ## Handing out in turn -/

/-- How much each gets of what is left, when some who lack something are served in turn. -/
def dealOut : Nat → List Nat → List Nat
  | _, [] => []
  | left, lack :: lacks => min lack left :: dealOut (left - lack) lacks

section DealOut

variable (left : Nat) (lacks : List Nat)

@[simp] theorem length_dealOut : (dealOut left lacks).length = lacks.length := by
  induction lacks generalizing left with
  | nil => rfl
  | cons lack lacks hypothesis => simp [dealOut, hypothesis]

/-- Together they get what they lack together, or everything. -/
theorem sum_dealOut : (dealOut left lacks).sum = min lacks.sum left := by
  induction lacks generalizing left with
  | nil => simp [dealOut]
  | cons lack lacks hypothesis =>
    rw [dealOut, List.sum_cons, List.sum_cons, hypothesis]
    omega

theorem take_dealOut (place : Nat) :
    (dealOut left lacks).take place = dealOut left (lacks.take place) := by
  induction lacks generalizing left place with
  | nil => simp [dealOut]
  | cons lack lacks hypothesis =>
    cases place with
    | zero => rfl
    | succ place => simp [dealOut, hypothesis]

/-- Each gets the lack, or what those before have left. -/
theorem getElem?_dealOut (place : Nat) :
    (dealOut left lacks)[place]? =
      lacks[place]?.map fun lack => min lack (left - ((dealOut left lacks).take place).sum) := by
  induction lacks generalizing left place with
  | nil => rfl
  | cons lack lacks hypothesis =>
    cases place with
    | zero => rfl
    | succ place =>
      simp only [dealOut, List.getElem?_cons_succ, hypothesis, List.take_succ_cons, List.sum_cons]
      congr 1
      funext next
      omega

/-- Nobody gets anything of nothing. -/
theorem left_of_dealOut {left : Nat} {lacks : List Nat} {place : Nat}
    (gets : (dealOut left lacks)[place]?.getD 0 ≠ 0) : 0 < left := by
  rw [getElem?_dealOut] at gets
  cases lacking : lacks[place]? with
  | none => simp [lacking] at gets
  | some lack =>
    rw [lacking, Option.map_some, Option.getD_some] at gets
    omega

end DealOut

/-- **Nobody gets anything while somebody earlier still lacks something.** -/
theorem dealOut_in_turn {left : Nat} {lacks : List Nat} {earlier later lack : Nat}
    (before : earlier < later) (gets : (dealOut left lacks)[later]?.getD 0 ≠ 0)
    (lacking : lacks[earlier]? = some lack) : (dealOut left lacks)[earlier]? = some lack := by
  induction lacks generalizing left earlier later with
  | nil => cases lacking
  | cons first lacks hypothesis =>
    obtain ⟨later, rfl⟩ := Nat.exists_eq_succ_of_ne_zero (Nat.ne_zero_of_lt before)
    rw [dealOut, List.getElem?_cons_succ] at gets
    cases earlier with
    | zero =>
      cases lacking
      have enough := left_of_dealOut gets
      rw [dealOut, List.getElem?_cons_zero, Nat.min_eq_left (by omega)]
    | succ earlier =>
      rw [dealOut, List.getElem?_cons_succ]
      exact hypothesis (Nat.lt_of_succ_lt_succ before) gets lacking

/-- Only as many elements are left out and taken as there are. -/
theorem take_drop_min {α : Type} (items : List α) (skipped count : Nat) :
    (items.drop (min skipped items.length)).take
        (min count (items.length - min skipped items.length)) =
      (items.drop skipped).take count := by
  have fewer : items.drop (min skipped items.length) = items.drop skipped := by
    rcases Nat.le_total skipped items.length with some_ | all
    · rw [Nat.min_eq_left some_]
    · rw [Nat.min_eq_right all, List.drop_length, List.drop_of_length_le all]
  have length : items.length - min skipped items.length = (items.drop skipped).length := by
    rw [List.length_drop]
    omega
  rw [fewer, length, ← List.take_eq_take_min]

/-! ## One seat -/

/-- What a player draws when others have drawn some cards before. -/
def Player.draws (player : Player) (deck : List Card) (taken : Nat) : List Card :=
  (deck.reverse.drop taken).take (min (handSize - player.hand.length) (deck.length - taken))

/-- A player with cards that have just been drawn.  A hand that was full keeps the old mark. -/
def Player.drawing (player : Player) (drawn : List Card) : Player :=
  { player with
    hand := player.hand ++ drawn
    lastDrawn := if player.hand.length < handSize then drawn else player.lastDrawn }

theorem Player.length_draws (player : Player) (deck : List Card) (taken : Nat) :
    (player.draws deck taken).length =
      min (handSize - player.hand.length) (deck.length - taken) := by
  rw [draws, List.length_take, List.length_drop, List.length_reverse]
  omega

theorem Player.replenished_eq_drawing (player : Player) (deck : List Card) (skipped : Nat) :
    (player.replenished (deck.take (deck.length - skipped))).1 =
      player.drawing (player.draws deck (min skipped deck.length)) := by
  have cards : player.draws deck (min skipped deck.length) =
      (draw (handSize - player.hand.length) (deck.take (deck.length - skipped))).1 := by
    rw [draw_take, ← take_drop_min deck.reverse, List.length_reverse, draws]
  rw [cards, replenished, drawing]
  split
  · rename_i full
    rw [Nat.sub_eq_zero_of_le full, Game.draw_zero, if_neg (Nat.not_lt.mpr full), List.append_nil]
  · rename_i short
    rw [if_pos (Nat.lt_of_not_le short)]

namespace Game

/-! ## All seats -/

/-- How a game deals to the seats of an order, so many cards to each.  The cards of a seat come from
the end of the deck, after those of the seats before. -/
structure DealsTo (game closed : Game) (order : List String) (counts : List Nat) : Prop where
  everybody : counts.length = order.length
  seat : ∀ place id player, order[place]? = some id → game.player? id = some player →
    let taken := (counts.take place).sum
    counts[place]? = some (min (handSize - player.hand.length) (game.deck.length - taken)) ∧
      closed.player? id = some (player.drawing (player.draws game.deck taken))
  deck : closed.deck = game.deck.take (game.deck.length - counts.sum)

section Order

variable {game : Game} {order : List String}

theorem lack_of_player? {id : String} {player : Player} (seat : game.player? id = some player) :
    game.lack id = handSize - player.hand.length := by
  rw [lack, handOf_of_player? seat]

/-- Filling up the hands of seated players in turn deals to them. -/
theorem dealsTo_foldl_replenish (different : order.Nodup)
    (seated : ∀ id ∈ order, id ∈ game.seatIds) :
    game.DealsTo (order.foldl replenish game) order
      (dealOut game.deck.length (order.map game.lack)) := by
  refine ⟨by simp, fun place id player here seat => ?_, ?_⟩
  · obtain ⟨inside, isId⟩ := List.getElem?_eq_some_iff.mp here
    have split : order = order.take place ++ id :: order.drop (place + 1) := by
      rw [← isId, ← List.drop_eq_getElem_cons inside, List.take_append_drop]
    have taken : ((dealOut game.deck.length (order.map game.lack)).take place).sum =
        min (game.lackOf (order.take place)) game.deck.length := by
      rw [take_dealOut, sum_dealOut, ← List.map_take, lackOf]
    have fills := player?_foldl_replenish (split ▸ different)
      (fun other member => seated other (List.mem_of_mem_take member)) seat
    rw [← split] at fills
    constructor
    · rw [getElem?_dealOut, List.getElem?_map, here, Option.map_some, Option.map_some,
        lack_of_player? seat]
    · rw [taken, fills, Player.replenished_eq_drawing]
  · rw [deck_foldl_replenish different seated, sum_dealOut, lackOf]
    congr 1
    omega

/-- Whoever is dealt anything comes after hands that are full. -/
theorem full_of_dealt_later {closed : Game} {counts : List Nat}
    (deals : game.DealsTo closed order counts)
    (dealt : counts = dealOut game.deck.length (order.map game.lack)) {earlier later : Nat}
    (before : earlier < later) (gets : counts[later]?.getD 0 ≠ 0) {id : String}
    (here : order[earlier]? = some id) (seated : id ∈ game.seatIds) {player : Player}
    (seat : closed.player? id = some player) : handSize ≤ player.hand.length := by
  obtain ⟨old, wasSeat⟩ := Option.isSome_iff_exists.mp (isSome_player?_iff.mpr seated)
  obtain ⟨count, isSeat⟩ := deals.seat earlier id old here wasSeat
  have whole : counts[earlier]? = some (game.lack id) := by
    rw [dealt] at gets ⊢
    exact dealOut_in_turn before gets (by rw [List.getElem?_map, here, Option.map_some])
  rw [whole, lack_of_player? wasSeat, Option.some.injEq] at count
  obtain rfl := Option.some.inj (isSeat.symm.trans seat)
  rw [Player.drawing, List.length_append, Player.length_draws, ← count]
  omega

end Order

/-- When the seats of a game have been dealt to, everybody has six cards or the deck is empty. -/
theorem full_or_empty_resolveRound {game : Game} (distinct : game.seatIds.Nodup)
    (order : game.drawingOrder.Perm game.seatIds) (switch : Bool) :
    (game.resolveRound switch).deck = [] ∨
      ∀ player ∈ (game.resolveRound switch).players, handSize ≤ player.hand.length := by
  have fills : game.FillsUp game.replenishAll game.drawingOrder :=
    fillsUp_foldl fun _ member => order.mem_iff.mp member
  have seats : game.replenishAll.seatIds = game.seatIds := seatIds_congr (seating_replenishAll game)
  rw [(players_resolveRound game switch).1, (players_resolveRound game switch).2]
  by_cases left : game.replenishAll.deck = []
  · exact .inl left
  · refine .inr fun player member => ?_
    have seat := player?_of_mem (seats ▸ distinct) member
    have draws : player.id ∈ game.drawingOrder :=
      order.mem_iff.mpr (seats ▸ List.mem_map_of_mem member)
    rw [← handOf_of_player? seat]
    exact fills.full left player.id draws

theorem player?_resolveRound (game : Game) (switch : Bool) (id : String) :
    (game.resolveRound switch).player? id = game.replenishAll.player? id :=
  congrArg (List.find? _) (players_resolveRound game switch).1

/-- Closing a round deals to the seats in the order of drawing. -/
theorem dealsTo_resolveRound {game : Game} (distinct : game.seatIds.Nodup)
    (order : game.drawingOrder.Perm game.seatIds) (switch : Bool) :
    game.DealsTo (game.resolveRound switch) game.drawingOrder
      (dealOut game.deck.length (game.drawingOrder.map game.lack)) := by
  have dealt := dealsTo_foldl_replenish (order.nodup_iff.mpr distinct)
    fun id member => order.mem_iff.mp member
  refine ⟨dealt.everybody, fun place id player here seat => ?_, ?_⟩
  · rw [player?_resolveRound]
    exact dealt.seat place id player here seat
  · rw [(players_resolveRound game switch).2]
    exact dealt.deck

section Roles

variable {game : Game}

/-- Roles that do not move on stay. -/
theorem roles_resolveRound_false (game : Game) :
    (game.resolveRound false).attackerId = game.attackerId ∧
      (game.resolveRound false).defenderId = game.defenderId :=
  ⟨replenishAll_keeps attackerId (fun _ _ _ => rfl) game,
    replenishAll_keeps defenderId (fun _ _ _ => rfl) game⟩

/-- When the roles move on, the defender attacks and the next seat defends. -/
theorem roles_resolveRound_true (distinct : game.seatIds.Nodup)
    (defender : game.defenderId ∈ game.seatIds) :
    (game.resolveRound true).attackerId = game.defenderId ∧
      ∃ place, game.seatIds[place]? = some game.defenderId ∧
        game.seatIds[(place + 1) % game.seatIds.length]? =
          some (game.resolveRound true).defenderId := by
  obtain ⟨place, here⟩ := List.mem_iff_getElem?.mp defender
  have inside : (place + 1) % game.seatIds.length < game.seatIds.length :=
    Nat.mod_lt _ (Nat.zero_lt_of_lt (List.getElem?_eq_some_iff.mp here).1)
  have seats : game.replenishAll.seatIds = game.seatIds := seatIds_congr (seating_replenishAll game)
  have defends : game.replenishAll.defenderId = game.defenderId :=
    replenishAll_keeps defenderId (fun _ _ _ => rfl) game
  have next : game.replenishAll.nextSeat? game.replenishAll.defenderId =
      some (game.seatIds[(place + 1) % game.seatIds.length]) := by
    rw [defends, nextSeat?_of_seated (seats ▸ distinct) (seats ▸ here), seats,
      List.getElem?_eq_getElem inside]
  have moved : game.filled true = { game.replenishAll with
      attackerId := game.replenishAll.defenderId
      defenderId := game.seatIds[(place + 1) % game.seatIds.length] } := by
    rw [filled, if_pos rfl, switchRoles, next]
  rw [resolveRound_eq, moved]
  exact ⟨defends, place, here, List.getElem?_eq_getElem inside⟩

end Roles

/-- **Closing a round deals exactly as ruled.**  Let the ids of a game be distinct, and let attacker
and defender be seated and not the same.

The order of drawing is the attacker, the others that do not defend as they sit after the attacker,
going around the table, and the defender; it lists every seat once.  Each draws what the hand lacks
to six cards, but no more than those before have left (`DealsTo`).  So nobody draws anything while
somebody earlier has less than six cards, and afterwards the deck is empty or everybody has six.

The table goes to the discard pile as it lies, the votes are forgotten, both timers stop, and the
end of the attack is the only new event.  The roles stay unless they are to move on: then the
defender attacks, and the next seat defends.  Nothing else changes. -/
theorem resolveRound_deals {game : Game} (distinct : game.seatIds.Nodup)
    (attacker : game.attackerId ∈ game.seatIds) (defender : game.defenderId ∈ game.seatIds)
    (apart : game.attackerId ≠ game.defenderId) (switch : Bool) :
    let closed := game.resolveRound switch
    (∃ before after counts, game.seatIds = before ++ game.attackerId :: after ∧
      let order := game.attackerId ::
        (after ++ before).filter (· != game.defenderId) ++ [game.defenderId]
      order.Perm game.seatIds ∧ game.DealsTo closed order counts ∧
        ∀ (earlier later : Nat) (id : String) (player : Player), earlier < later →
          counts[later]?.getD 0 ≠ 0 → order[earlier]? = some id →
            closed.player? id = some player → handSize ≤ player.hand.length) ∧
    (closed.deck = [] ∨ ∀ player ∈ closed.players, handSize ≤ player.hand.length) ∧
    closed.table = [] ∧ closed.discard = game.discard ++ tableCards game.table ∧
    closed.endVotes = .none ∧ closed.attackTimer = .stopped ∧ closed.defendTimer = .stopped ∧
    closed.events = game.events ++ [.endAttack] ∧
    (switch = false →
      closed.attackerId = game.attackerId ∧ closed.defenderId = game.defenderId) ∧
    (switch = true → closed.attackerId = game.defenderId ∧
      ∃ place, game.seatIds[place]? = some game.defenderId ∧
        game.seatIds[(place + 1) % game.seatIds.length]? = some closed.defenderId) ∧
    closed.terms = game.terms ∧ closed.readyVotes = game.readyVotes ∧
    closed.started = game.started := by
  intro closed
  have order := drawingOrder_perm_of_seated distinct attacker defender apart
  refine ⟨?_, full_or_empty_resolveRound distinct order switch, rfl,
    discard_resolveRound game switch, rfl, rfl, rfl, events_resolveRound game switch, ?_, ?_,
    terms_resolveRound game switch, filled_keeps readyVotes (fun _ _ _ _ _ => rfl) game switch,
    filled_keeps started (fun _ _ _ _ _ => rfl) game switch⟩
  · obtain ⟨before, after, seats⟩ := List.append_of_mem attacker
    have deals := dealsTo_resolveRound distinct order switch
    rw [drawingOrder_eq seats distinct] at order deals
    refine ⟨before, after, dealOut _ _, seats, order, deals, ?_⟩
    intro earlier later id player sooner gets here seat
    have seated := order.mem_iff.mp (List.mem_of_getElem? here)
    exact full_of_dealt_later deals rfl sooner gets here seated seat
  · rintro rfl
    exact roles_resolveRound_false game
  · rintro rfl
    exact roles_resolveRound_true distinct defender

/-- A round of four players in which the defender sits across the table, with three cards left for
the seven that the hands lack. -/
def acrossTheTable : Game where
  id := "g"
  settings := ⟨Double.ofInt 30⟩
  players := [
    ⟨"a", "", 0, [⟨.hearts, .six⟩, ⟨.hearts, .ten⟩, ⟨.clubs, .ace⟩], []⟩,
    ⟨"b", "", 1, [⟨.spades, .six⟩, ⟨.spades, .nine⟩, ⟨.clubs, .six⟩, ⟨.clubs, .ten⟩], []⟩,
    ⟨"c", "", 2, [⟨.hearts, .king⟩, ⟨.diamonds, .six⟩, ⟨.diamonds, .ten⟩, ⟨.clubs, .jack⟩], []⟩,
    ⟨"d", "", 3, [⟨.spades, .jack⟩, ⟨.spades, .king⟩, ⟨.diamonds, .ace⟩, ⟨.clubs, .nine⟩,
      ⟨.clubs, .king⟩, ⟨.hearts, .nine⟩], [⟨.hearts, .nine⟩]⟩]
  attackerId := "c"
  defenderId := "a"
  deck := [⟨.hearts, .ace⟩, ⟨.spades, .ten⟩, ⟨.diamonds, .jack⟩]
  trump := .hearts
  table := [⟨⟨.diamonds, .seven⟩, some ⟨.diamonds, .eight⟩⟩]
  discard := []
  endVotes := .ofList ["c"]
  readyVotes := .none
  started := true
  attackTimer := .stopped
  defendTimer := .stopped
  events := []

/-- The round is closed with nothing left, and the attack goes around to the first seat. -/
theorem resolveRound_deals_across_the_table :
    acrossTheTable.seatIds.Nodup ∧ acrossTheTable.attackerId ∈ acrossTheTable.seatIds ∧
      acrossTheTable.defenderId ∈ acrossTheTable.seatIds ∧
      acrossTheTable.attackerId ≠ acrossTheTable.defenderId ∧
      let closed := acrossTheTable.resolveRound true
      (closed.deck = [] ∨ ∀ player ∈ closed.players, handSize ≤ player.hand.length) ∧
        closed.discard = [⟨.diamonds, .seven⟩, ⟨.diamonds, .eight⟩] ∧
        closed.attackerId = "a" ∧ closed.events = [.endAttack] := by
  have distinct : acrossTheTable.seatIds.Nodup := by decide +kernel
  have attacker : acrossTheTable.attackerId ∈ acrossTheTable.seatIds := by decide +kernel
  have defender : acrossTheTable.defenderId ∈ acrossTheTable.seatIds := by decide +kernel
  have apart : acrossTheTable.attackerId ≠ acrossTheTable.defenderId := by decide +kernel
  obtain ⟨-, full, -, discarded, -, -, -, events, -, roles, -⟩ :=
    resolveRound_deals distinct attacker defender apart true
  exact ⟨distinct, attacker, defender, apart, full, discarded, (roles rfl).1, events⟩

end Game

end Durak
