import Durak.Proofs.Hands

/-!
# Who draws which cards

Players who fill up their hands one after another share the deck: each draws what the hand lacks to
six cards, from what those before have left.  Read from its end, the deck is then cut into
consecutive pieces.  A player's piece, `Game.share`, begins after as many cards as the players
before lack together, and is as long as the player's own lack, as far as the deck reaches.

The seats draw in the drawing order, in which everybody at the table stands once
(`drawingOrder_perm`).  So closing a round puts one piece at the end of every hand
(`exists_drawn`), and what has left the deck is the pieces in that order.
-/

set_option autoImplicit false

namespace Durak

-- sums of natural numbers are those of the core library
attribute [local instance (high)] Zero.ofOfNat0

/-- Cards are drawn from the end of what a deck has left. -/
theorem draw_take (count taken : Nat) (deck : List Card) :
    (draw count (deck.take (deck.length - taken))).1 = (deck.reverse.drop taken).take count := by
  have left : (deck.take (deck.length - taken)).reverse = deck.reverse.drop taken := by
    rw [List.drop_reverse]
  rw [← left, List.take_reverse]
  rfl

namespace Game

/-- How many cards a hand lacks to six. -/
def lack (game : Game) (id : String) : Nat := handSize - (game.handOf id).length

/-- How many cards some players lack together. -/
def lackOf (game : Game) (ids : List String) : Nat := (ids.map game.lack).sum

/-- What a player draws when some others have drawn before. -/
def share (game : Game) (before : List String) (id : String) : List Card :=
  (game.deck.reverse.drop (game.lackOf before)).take (game.lack id)

@[simp] theorem lackOf_nil (game : Game) : game.lackOf [] = 0 := rfl

@[simp] theorem lackOf_cons (game : Game) (id : String) (ids : List String) :
    game.lackOf (id :: ids) = game.lack id + game.lackOf ids := List.sum_cons

theorem lackOf_append (game : Game) (first second : List String) :
    game.lackOf (first ++ second) = game.lackOf first + game.lackOf second := by
  induction first with
  | nil => simp
  | cons id first hypothesis => simp [hypothesis, Nat.add_assoc]

/-- The order plays no part in what players lack together. -/
theorem lackOf_perm (game : Game) {first second : List String} (same : first.Perm second) :
    game.lackOf first = game.lackOf second := (same.map game.lack).sum_nat

theorem lackOf_congr {first second : Game} {ids : List String}
    (hands : ∀ id ∈ ids, first.handOf id = second.handOf id) :
    first.lackOf ids = second.lackOf ids := by
  unfold lackOf lack
  rw [List.map_congr_left fun id member => by rw [hands id member]]

/-! ## One after another -/

/-- Filling up a hand changes that player only. -/
theorem player?_replenish_self {game : Game} {id : String} {player : Player}
    (seat : game.player? id = some player) :
    (game.replenish id).player? id = some (player.replenished game.deck).1 := by
  have isId : player.id = id := by simpa using List.find?_some seat
  have kept : (player.replenished game.deck).1.id = player.id :=
    congrArg (·.1) (chair_replenished player game.deck)
  rw [replenish_of_player? seat]
  exact find?_updateFirst_self seat (by simp [kept, isId])

theorem player?_replenish_other {game : Game} {id other : String} (apart : other ≠ id) :
    (game.replenish id).player? other = game.player? other := by
  cases seat : game.player? id with
  | none => rw [replenish_of_unseated seat]
  | some player =>
    have isId : player.id = id := by simpa using List.find?_some seat
    have kept : (player.replenished game.deck).1.id = player.id :=
      congrArg (·.1) (chair_replenished player game.deck)
    rw [replenish_of_player? seat]
    refine find?_updateFirst_other (fun item isItem => ?_) fun _ _ => ?_
    · have here : item.id = id := by simpa using isItem
      simpa [here] using apart.symm
    · simpa [kept, isId] using apart.symm

theorem player?_foldl_replenish_other {ids : List String} {game : Game} {other : String}
    (absent : other ∉ ids) : (ids.foldl replenish game).player? other = game.player? other := by
  induction ids generalizing game with
  | nil => rfl
  | cons id ids hypothesis =>
    rw [List.mem_cons, not_or] at absent
    rw [List.foldl_cons, hypothesis absent.2, player?_replenish_other absent.1]

/-- Players who draw one after another take from the deck what they lack together. -/
theorem deck_foldl_replenish {ids : List String} {game : Game} (different : ids.Nodup)
    (seated : ∀ id ∈ ids, id ∈ game.seatIds) :
    (ids.foldl replenish game).deck = game.deck.take (game.deck.length - game.lackOf ids) := by
  induction ids generalizing game with
  | nil => simp
  | cons id ids hypothesis =>
    rw [List.forall_mem_cons] at seated
    rw [List.nodup_cons] at different
    have rest : (game.replenish id).lackOf ids = game.lackOf ids := by
      refine lackOf_congr fun other member => ?_
      have apart : other ≠ id := fun same => different.1 (same ▸ member)
      rw [handOf_replenish seated.1, if_neg apart]
    have stillSeated : ∀ other ∈ ids, other ∈ (game.replenish id).seatIds := by
      rw [seatIds_replenish]
      exact seated.2
    have first : (game.replenish id).deck =
        game.deck.take (game.deck.length - game.lack id) := deck_replenish seated.1
    rw [List.foldl_cons, hypothesis different.2 stillSeated, rest, first,
      List.take_take, List.length_take, lackOf_cons]
    congr 1
    omega

/-- **What a player has after the players of an order have drawn one after another**: the hand is
filled up from what those before have left in the deck. -/
theorem player?_foldl_replenish {before after : List String} {game : Game} {id : String}
    {player : Player} (different : (before ++ id :: after).Nodup)
    (seated : ∀ other ∈ before, other ∈ game.seatIds) (seat : game.player? id = some player) :
    ((before ++ id :: after).foldl replenish game).player? id =
      some (player.replenished
        (game.deck.take (game.deck.length - game.lackOf before))).1 := by
  obtain ⟨fromBefore, fromAfter, apart⟩ := List.nodup_append.mp different
  have notBefore : id ∉ before := fun member => apart id member id List.mem_cons_self rfl
  have untouched : (before.foldl replenish game).player? id = some player :=
    (player?_foldl_replenish_other notBefore).trans seat
  rw [List.foldl_append, List.foldl_cons,
    player?_foldl_replenish_other (List.nodup_cons.mp fromAfter).1,
    player?_replenish_self untouched, deck_foldl_replenish fromBefore seated]

/-- The hand grows by the player's share. -/
theorem handOf_foldl_replenish {before after : List String} {game : Game} {id : String}
    (different : (before ++ id :: after).Nodup)
    (seated : ∀ other ∈ before ++ id :: after, other ∈ game.seatIds) :
    ((before ++ id :: after).foldl replenish game).handOf id =
      game.handOf id ++ game.share before id := by
  obtain ⟨player, seat⟩ := Option.isSome_iff_exists.mp
    (isSome_player?_iff.mpr (seated id (List.mem_append_right _ List.mem_cons_self)))
  have filled := player?_foldl_replenish different
    (fun other member => seated other (List.mem_append_left _ member)) seat
  rw [handOf_of_player? filled, (hand_replenished _ _).1, draw_take, share, lack,
    handOf_of_player? seat]

/-! ## The drawing order -/

variable {game : Game} {place : Nat}

/-- Everybody at the table draws once. -/
theorem drawingOrder_perm (attacks : game.AttacksFrom place) :
    game.drawingOrder.Perm game.seatIds :=
  drawingOrder_perm_of_seated attacks.distinct attacks.attacker_mem attacks.defender_mem
    attacks.attacker_ne_defender

theorem nodup_drawingOrder (attacks : game.AttacksFrom place) : game.drawingOrder.Nodup :=
  (drawingOrder_perm attacks).nodup_iff.mpr attacks.distinct

theorem seated_of_drawingOrder (attacks : game.AttacksFrom place) :
    ∀ id ∈ game.drawingOrder, id ∈ game.seatIds :=
  fun _ member => (mem_drawingOrder attacks).mp member

/-- Closing a round takes from the deck what the players lack together. -/
theorem deck_replenishAll (attacks : game.AttacksFrom place) :
    game.replenishAll.deck =
      game.deck.take (game.deck.length - game.lackOf game.seatIds) := by
  rw [replenishAll, deck_foldl_replenish (nodup_drawingOrder attacks)
    (seated_of_drawingOrder attacks), lackOf_perm game (drawingOrder_perm attacks)]

/-- The attacker draws from the whole deck. -/
theorem handOf_attacker_replenishAll (attacks : game.AttacksFrom place) :
    game.replenishAll.handOf game.attackerId =
      game.handOf game.attackerId ++ game.share [] game.attackerId := by
  have order : game.drawingOrder =
      [] ++ game.attackerId :: (game.observers.map (·.id) ++ [game.defenderId]) := rfl
  rw [replenishAll, order]
  exact handOf_foldl_replenish (order ▸ nodup_drawingOrder attacks)
    (order ▸ seated_of_drawingOrder attacks)

/-- The defender draws from what everybody else has left. -/
theorem handOf_defender_replenishAll (attacks : game.AttacksFrom place) :
    game.replenishAll.handOf game.defenderId =
      game.handOf game.defenderId ++
        game.share (game.attackerId :: game.observers.map (·.id)) game.defenderId :=
  handOf_foldl_replenish (nodup_drawingOrder attacks) (seated_of_drawingOrder attacks)

/-- The others are everybody but the defender. -/
theorem lackOf_others (attacks : game.AttacksFrom place) :
    game.lackOf (game.attackerId :: game.observers.map (·.id)) =
      game.lackOf (game.seatIds.filter fun id => id != game.defenderId) := by
  have others : ∀ id ∈ game.attackerId :: game.observers.map (·.id),
      (id != game.defenderId) = true := by
    rw [map_id_observers, List.forall_mem_cons]
    refine ⟨bne_iff_ne.mpr attacks.attacker_ne_defender, fun id member => ?_⟩
    exact (Bool.and_eq_true_iff.mp (List.mem_filter.mp member).2).2
  have same := (drawingOrder_perm attacks).filter fun id => id != game.defenderId
  rw [drawingOrder, List.filter_append, List.filter_eq_self.mpr others,
    List.filter_cons_of_neg (by simp), List.filter_nil, List.append_nil] at same
  exact lackOf_perm game same

/-- **Closing a round puts a piece of the deck at the end of every hand**: the cards that others
have drawn before, those of the player, and those that others draw afterwards make up what has left
the deck. -/
theorem exists_drawn (attacks : game.AttacksFrom place) {id : String}
    (seated : id ∈ game.seatIds) :
    ∃ earlier drawn later, game.replenishAll.handOf id = game.handOf id ++ drawn ∧
      game.deck = game.replenishAll.deck ++ (earlier ++ drawn ++ later).reverse := by
  obtain ⟨before, after, order⟩ := List.append_of_mem ((mem_drawingOrder attacks).mpr seated)
  have different := order ▸ nodup_drawingOrder attacks
  have everySeat := order ▸ seated_of_drawingOrder attacks
  refine ⟨game.deck.reverse.take (game.lackOf before), game.share before id,
    (game.deck.reverse.drop (game.lackOf before + game.lack id)).take (game.lackOf after),
    ?_, ?_⟩
  · rw [replenishAll, order, handOf_foldl_replenish different everySeat]
  · have pieces : game.deck.reverse.take (game.lackOf before) ++ game.share before id ++
        (game.deck.reverse.drop (game.lackOf before + game.lack id)).take (game.lackOf after) =
          game.deck.reverse.take (game.lackOf (before ++ id :: after)) := by
      rw [lackOf_append, lackOf_cons, ← Nat.add_assoc, List.take_add, List.take_add, share]
    rw [pieces, replenishAll, order, deck_foldl_replenish different everySeat, List.take_reverse,
      List.reverse_reverse, List.take_append_drop]

end Game

end Durak
