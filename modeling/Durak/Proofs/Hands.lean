import Durak.Proofs.Rotation

/-!
# Hands

What a player holds is found by the player's id, `Game.handOf`.  Playing a card takes it out of one
hand, and taking the table puts cards into one.  Filling up never makes a hand smaller; it leaves
every hand as it is when the deck is empty, and leaves no hand below six cards when the deck is not
empty afterwards.

From this follows what is known of any game that a run from a deal reaches: as long as there are
cards in the deck, every player has six cards, counting for the attacker the cards laid on the
table and for the defender the covers (`stocked_afterAll`).
-/

set_option autoImplicit false

namespace Durak

/-! ## Finding a changed element -/

/-- The changed element is found where it was found before. -/
theorem find?_updateFirst_self {α : Type} {condition : α → Bool} {change : α → α} {items : List α}
    {found : α} (first : items.find? condition = some found)
    (kept : condition (change found) = true) :
    (updateFirst condition change items).find? condition = some (change found) := by
  induction items with
  | nil => cases first
  | cons item rest hypothesis =>
    by_cases satisfies : condition item = true
    · rw [List.find?_cons_of_pos satisfies] at first
      cases first
      rw [updateFirst, if_pos satisfies, List.find?_cons_of_pos kept]
    · rw [List.find?_cons_of_neg satisfies] at first
      rw [updateFirst, if_neg satisfies, List.find?_cons_of_neg satisfies, hypothesis first]

/-- Whoever is looked for among other elements is found as before. -/
theorem find?_updateFirst_other {α : Type} {condition other : α → Bool} {change : α → α}
    {items : List α} (apart : ∀ item, condition item = true → other item = false)
    (kept : ∀ found, items.find? condition = some found → other (change found) = false) :
    (updateFirst condition change items).find? other = items.find? other := by
  induction items with
  | nil => rfl
  | cons item rest hypothesis =>
    by_cases satisfies : condition item = true
    · have before := Bool.eq_false_iff.mp (apart item satisfies)
      have after := Bool.eq_false_iff.mp (kept item (List.find?_cons_of_pos satisfies))
      rw [updateFirst, if_pos satisfies, List.find?_cons_of_neg before,
        List.find?_cons_of_neg after]
    · have later : (updateFirst condition change rest).find? other = rest.find? other :=
        hypothesis fun found first => kept found ((List.find?_cons_of_neg satisfies).trans first)
      rw [updateFirst, if_neg satisfies, List.find?_cons, List.find?_cons, later]

/-! ## What a player holds -/

namespace Game

/-- The cards in a player's hand; whoever has no seat holds none. -/
def handOf (game : Game) (id : String) : List Card :=
  ((game.player? id).map (·.hand)).getD []

theorem handOf_of_player? {game : Game} {id : String} {player : Player}
    (seat : game.player? id = some player) : game.handOf id = player.hand := by
  rw [handOf, seat]
  rfl

theorem handOf_of_unseated {game : Game} {id : String} (unseated : id ∉ game.seatIds) :
    game.handOf id = [] := by
  rw [← isSome_player?_iff, Option.not_isSome_iff_eq_none] at unseated
  rw [handOf, unseated]
  rfl

theorem handOf_congr {first second : Game} (players : first.players = second.players)
    (id : String) : first.handOf id = second.handOf id := by
  unfold handOf player?
  rw [players]

theorem mem_handOf {game : Game} {id : String} {card : Card} :
    card ∈ game.handOf id ↔ ∃ player, game.player? id = some player ∧ card ∈ player.hand := by
  unfold handOf
  cases game.player? id <;> simp

theorem handOf_ne_nil {game : Game} {id : String} :
    game.handOf id ≠ [] ↔ ∃ player, game.player? id = some player ∧ player.hand ≠ [] := by
  unfold handOf
  cases game.player? id <;> simp

theorem hasNoCards_eq_true {game : Game} {id : String} :
    game.hasNoCards id = true ↔ id ∈ game.seatIds ∧ game.handOf id = [] := by
  rw [← isSome_player?_iff]
  unfold hasNoCards handOf
  cases game.player? id <;> simp

/-- Changing a seated player changes that player's hand and no other. -/
theorem handOf_updatePlayer {game : Game} {id : String} {player : Player}
    (seat : game.player? id = some player) {change : Player → Player}
    (kept : (change player).id = player.id) (other : String) :
    (game.updatePlayer id change).handOf other =
      if other = id then (change player).hand else game.handOf other := by
  have isId : player.id = id := by simpa using List.find?_some seat
  by_cases same : other = id
  · subst same
    have found : (game.updatePlayer other change).player? other = some (change player) :=
      find?_updateFirst_self seat (by simp [kept, isId])
    rw [if_pos rfl, handOf_of_player? found]
  · have found : (game.updatePlayer id change).player? other = game.player? other := by
      refine find?_updateFirst_other (fun item isItem => ?_) fun item first => ?_
      · have here : item.id = id := by simpa using isItem
        simpa [here] using Ne.symm same
      · cases seat.symm.trans first
        simpa [kept, isId] using Ne.symm same
    rw [if_neg same, handOf, found, handOf]

/-- Playing a card takes it out of the hand. -/
theorem handOf_withoutCard {game : Game} {userId : String} {card : Card}
    (held : card ∈ game.handOf userId) (other : String) :
    (game.withoutCard userId card).handOf other =
      if other = userId then (game.handOf userId).erase card else game.handOf other := by
  obtain ⟨player, seat, -⟩ := mem_handOf.mp held
  have changed := @handOf_updatePlayer game userId player seat
    (fun player => { player with hand := player.hand.erase card }) rfl other
  rw [handOf_of_player? seat]
  exact changed

/-- Taking the table puts its cards into the hand. -/
theorem handOf_takeTable {game : Game} {userId : String} (seated : userId ∈ game.seatIds)
    (other : String) :
    (game.takeTable userId).handOf other =
      if other = userId then game.handOf userId ++ tableCards game.table
      else game.handOf other := by
  obtain ⟨player, seat⟩ := Option.isSome_iff_exists.mp (isSome_player?_iff.mpr seated)
  have changed := @handOf_updatePlayer game userId player seat
    (fun player => { player with hand := player.hand ++ tableCards game.table }) rfl other
  rw [handOf_of_player? seat]
  exact changed

/-! ## Filling up -/

theorem draw_zero (deck : List Card) : draw 0 deck = ([], deck) := by
  simp [draw]

theorem draw_nil (count : Nat) : draw count [] = ([], []) := by
  simp [draw]

/-- What a player draws is as much as is missing. -/
theorem hand_replenished (player : Player) (deck : List Card) :
    (player.replenished deck).1.hand =
        player.hand ++ (draw (handSize - player.hand.length) deck).1 ∧
      (player.replenished deck).2 = (draw (handSize - player.hand.length) deck).2 := by
  unfold Player.replenished
  by_cases full : handSize ≤ player.hand.length
  · rw [if_pos full, Nat.sub_eq_zero_of_le full, draw_zero]
    exact ⟨(List.append_nil _).symm, rfl⟩
  · rw [if_neg full]
    exact ⟨rfl, rfl⟩

theorem handOf_replenish {game : Game} {id : String} (seated : id ∈ game.seatIds)
    (other : String) :
    (game.replenish id).handOf other =
      if other = id then
        game.handOf id ++ (draw (handSize - (game.handOf id).length) game.deck).1
      else game.handOf other := by
  obtain ⟨player, seat⟩ := Option.isSome_iff_exists.mp (isSome_player?_iff.mpr seated)
  have kept : (player.replenished game.deck).1.id = player.id :=
    congrArg (·.1) (chair_replenished player game.deck)
  have changed := @handOf_updatePlayer game id player seat
    (fun _ => (player.replenished game.deck).1) kept other
  rw [replenish_of_player? seat, handOf_of_player? seat, ← (hand_replenished _ _).1]
  exact changed

theorem deck_replenish {game : Game} {id : String} (seated : id ∈ game.seatIds) :
    (game.replenish id).deck = (draw (handSize - (game.handOf id).length) game.deck).2 := by
  obtain ⟨player, seat⟩ := Option.isSome_iff_exists.mp (isSome_player?_iff.mpr seated)
  rw [replenish_of_player? seat, handOf_of_player? seat, ← (hand_replenished _ _).2]

theorem seatIds_replenish (game : Game) (id : String) :
    (game.replenish id).seatIds = game.seatIds := seatIds_congr (seating_replenish game id)

/-- What filling up the hands of some seated players does to the hands and to the deck. -/
structure FillsUp (before after : Game) (ids : List String) : Prop where
  grows : ∀ id, (before.handOf id).length ≤ (after.handOf id).length
  empty : before.deck = [] → after.deck = [] ∧ ∀ id, after.handOf id = before.handOf id
  full : after.deck ≠ [] → ∀ id ∈ ids, handSize ≤ (after.handOf id).length

theorem fillsUp_replenish {game : Game} {id : String} (seated : id ∈ game.seatIds) :
    game.FillsUp (game.replenish id) [id] := by
  constructor
  · intro other
    rw [handOf_replenish seated]
    split
    · rename_i same
      rw [same, List.length_append]
      exact Nat.le_add_right _ _
    · exact Nat.le_refl _
  · intro empty
    rw [deck_replenish seated, empty, draw_nil]
    refine ⟨rfl, fun other => ?_⟩
    rw [handOf_replenish seated, empty, draw_nil]
    split
    · rename_i same
      rw [same, List.append_nil]
    · rfl
  · intro left other member
    obtain rfl := List.mem_singleton.mp member
    rw [deck_replenish seated] at left
    have enough : 0 < game.deck.length - (handSize - (game.handOf other).length) := by
      have := List.length_pos_iff.mpr left
      simp only [draw, List.length_take] at this
      omega
    rw [handOf_replenish seated, if_pos rfl, List.length_append, length_draw]
    omega

theorem FillsUp.trans {first second third : Game} {before after : List String}
    (fills : first.FillsUp second before) (later : second.FillsUp third after) :
    first.FillsUp third (before ++ after) := by
  constructor
  · exact fun id => (fills.grows id).trans (later.grows id)
  · intro empty
    obtain ⟨still, same⟩ := fills.empty empty
    obtain ⟨ever, again⟩ := later.empty still
    exact ⟨ever, fun id => (again id).trans (same id)⟩
  · intro left id member
    rcases List.mem_append.mp member with early | late
    · have between : second.deck ≠ [] := fun empty => left (later.empty empty).1
      exact (fills.full between id early).trans (later.grows id)
    · exact later.full left id late

theorem FillsUp.pushEvent {before after : Game} {ids : List String}
    (fills : before.FillsUp after ids) (event : Event) :
    before.FillsUp (after.pushEvent event) ids :=
  ⟨fills.grows, fills.empty, fills.full⟩

theorem fillsUp_foldl {ids : List String} {game : Game} (seated : ∀ id ∈ ids, id ∈ game.seatIds) :
    game.FillsUp (ids.foldl replenish game) ids := by
  induction ids generalizing game with
  | nil =>
    exact ⟨fun _ => Nat.le_refl _, fun empty => ⟨empty, fun _ => rfl⟩,
      fun _ _ member => absurd member List.not_mem_nil⟩
  | cons id ids hypothesis =>
    rw [List.forall_mem_cons] at seated
    have later := @hypothesis (game.replenish id) fun other member => by
      rw [seatIds_replenish]
      exact seated.2 other member
    exact (fillsUp_replenish seated.1).trans later

/-- The order of drawing goes around the table: the attacker, those who sit after the attacker, then
those who sit before, and the defender when everybody else has drawn. -/
theorem drawingOrder_eq {game : Game} {before after : List String}
    (seats : game.seatIds = before ++ game.attackerId :: after) (distinct : game.seatIds.Nodup) :
    game.drawingOrder =
      game.attackerId :: (after ++ before).filter (· != game.defenderId) ++ [game.defenderId] := by
  have place : game.position? game.attackerId = some before.length :=
    (position?_eq_some_iff distinct).mpr (by simp [seats])
  rw [position?_eq_idxOf?] at place
  have afterwards : game.seatIds.drop (before.length + 1) = after := by
    rw [seats, ← List.drop_drop, List.drop_left, List.drop_succ_cons, List.drop_zero]
  have earlier : game.seatIds.take before.length = before := by rw [seats, List.take_left]
  -- the attacker is not among the others, so only the defender is left out
  have fresh : game.attackerId ∉ after ++ before := by
    rw [seats, List.perm_middle.nodup_iff, List.nodup_cons, List.mem_append, or_comm,
      ← List.mem_append] at distinct
    exact distinct.1
  have observing : (after ++ before).filter
      (fun id => id != game.attackerId && id != game.defenderId) =
        (after ++ before).filter (· != game.defenderId) := by
    refine List.filter_congr fun id member => ?_
    have apart : (id != game.attackerId) = true := bne_iff_ne.mpr fun same => fresh (same ▸ member)
    rw [apart, Bool.true_and]
  rw [drawingOrder, map_id_observers, place, Option.getD_some, afterwards, earlier, observing]

/-- When attacker and defender are seated and not the same, everybody at the table draws once. -/
theorem drawingOrder_perm_of_seated {game : Game} (distinct : game.seatIds.Nodup)
    (attacker : game.attackerId ∈ game.seatIds) (defender : game.defenderId ∈ game.seatIds)
    (apart : game.attackerId ≠ game.defenderId) : game.drawingOrder.Perm game.seatIds := by
  obtain ⟨before, after, seats⟩ := List.append_of_mem attacker
  have others : game.seatIds.Perm (game.attackerId :: (after ++ before)) := by
    rw [seats]
    exact List.perm_middle.trans (List.perm_append_comm.cons _)
  have among : game.defenderId ∈ after ++ before :=
    (List.mem_cons.mp (others.mem_iff.mp defender)).resolve_left apart.symm
  have different : (after ++ before).Nodup := (List.nodup_cons.mp (others.nodup_iff.mp distinct)).2
  rw [drawingOrder_eq seats distinct, ← different.erase_eq_filter, List.cons_append]
  exact (((List.perm_append_singleton _ _).trans (List.perm_cons_erase among).symm).cons _).trans
    others.symm

/-- Everybody at the table draws, and nobody else does. -/
theorem mem_drawingOrder {game : Game} {place : Nat} (attacks : game.AttacksFrom place)
    {id : String} : id ∈ game.drawingOrder ↔ id ∈ game.seatIds :=
  (drawingOrder_perm_of_seated attacks.distinct attacks.attacker_mem attacks.defender_mem
    attacks.attacker_ne_defender).mem_iff

theorem fillsUp_replenishAll {game : Game} {place : Nat} (attacks : game.AttacksFrom place) :
    game.FillsUp game.replenishAll game.seatIds := by
  have fills := fillsUp_foldl fun id member => (mem_drawingOrder attacks).mp member
  exact ⟨fills.grows, fills.empty,
    fun left id seated => fills.full left id ((mem_drawingOrder attacks).mpr seated)⟩

/-- The attacker draws first, so as much as is missing and there. -/
theorem attacker_replenishAll {game : Game} {place : Nat} (attacks : game.AttacksFrom place) :
    min handSize ((game.handOf game.attackerId).length + game.deck.length) ≤
      (game.replenishAll.handOf game.attackerId).length := by
  have first : min handSize ((game.handOf game.attackerId).length + game.deck.length) ≤
      ((game.replenish game.attackerId).handOf game.attackerId).length := by
    rw [handOf_replenish attacks.attacker_mem, if_pos rfl, List.length_append, length_draw]
    omega
  have later : (game.replenish game.attackerId).FillsUp game.replenishAll
      (game.observers.map (·.id) ++ [game.defenderId]) := fillsUp_foldl fun id member => by
    rw [seatIds_replenish, ← mem_drawingOrder attacks]
    exact List.mem_cons_of_mem _ member
  exact first.trans (later.grows game.attackerId)

/-- Closing a round puts the table aside. -/
theorem discard_resolveRound (game : Game) (switch : Bool) :
    (game.resolveRound switch).discard = game.discard ++ tableCards game.table := by
  exact filled_keeps (fun game => game.discard ++ tableCards game.table) (fun _ _ _ _ _ => rfl)
    game switch

theorem players_resolveRound (game : Game) (switch : Bool) :
    (game.resolveRound switch).players = game.replenishAll.players ∧
      (game.resolveRound switch).deck = game.replenishAll.deck := by
  rw [resolveRound_eq]
  cases switch with
  | false =>
    simp only [filled, Bool.false_eq_true, if_false, pushEvent, clearTable, and_self]
  | true =>
    simp only [filled, if_true, pushEvent, clearTable]
    exact ⟨switchRoles_keeps players (fun _ _ _ => rfl) _,
      switchRoles_keeps deck (fun _ _ _ => rfl) _⟩

theorem handOf_resolveRound (game : Game) (switch : Bool) (id : String) :
    (game.resolveRound switch).handOf id = game.replenishAll.handOf id :=
  handOf_congr (players_resolveRound game switch).1 id

/-- Closing a round fills up the hands. -/
theorem fillsUp_resolveRound {game : Game} {place : Nat} (attacks : game.AttacksFrom place)
    (switch : Bool) : game.FillsUp (game.resolveRound switch) game.seatIds := by
  have fills := fillsUp_replenishAll attacks
  refine ⟨fun id => ?_, fun empty => ?_, fun left id seated => ?_⟩
  · rw [handOf_resolveRound]
    exact fills.grows id
  · rw [(players_resolveRound game switch).2]
    simp only [handOf_resolveRound]
    exact fills.empty empty
  · rw [(players_resolveRound game switch).2] at left
    rw [handOf_resolveRound]
    exact fills.full left id seated

/-- The game after the defender has taken up the table. -/
def taken (game : Game) : Game :=
  ((game.takeTable game.defenderId).resolveRound false).passOver game.defenderId

theorem attacksFrom_takeTable {game : Game} {place : Nat} (attacks : game.AttacksFrom place) :
    (game.takeTable game.defenderId).AttacksFrom place :=
  attacks.congr (terms_takeTable game game.defenderId) rfl rfl

theorem terms_taken (game : Game) : game.taken.terms = game.terms :=
  (terms_passOver _ _).trans ((terms_resolveRound _ _).trans (terms_takeTable _ _))

/-- Once the defender has the cards of the table, the hands are filled up. -/
theorem fillsUp_taken {game : Game} {place : Nat} (attacks : game.AttacksFrom place) :
    (game.takeTable game.defenderId).FillsUp game.taken game.seatIds := by
  have closed := fillsUp_resolveRound (attacksFrom_takeTable attacks) false
  rw [seatIds_congr (seating_eq_of_terms (terms_takeTable game game.defenderId))] at closed
  have hands : ∀ id, game.taken.handOf id =
      ((game.takeTable game.defenderId).resolveRound false).handOf id := fun id =>
    handOf_congr (passOver_keeps players (fun _ _ _ => rfl) _ _) id
  have left : game.taken.deck = ((game.takeTable game.defenderId).resolveRound false).deck :=
    passOver_keeps deck (fun _ _ _ => rfl) _ _
  constructor
  · intro id
    rw [hands]
    exact closed.grows id
  · intro empty
    rw [left]
    simp only [hands]
    exact closed.empty empty
  · intro some_ id seated
    rw [left] at some_
    rw [hands]
    exact closed.full some_ id seated

/-- With an empty deck, taking up the table only puts its cards into the defender's hand. -/
theorem handOf_taken {game : Game} {place : Nat} (attacks : game.AttacksFrom place)
    (empty : game.deck = []) (id : String) :
    game.taken.handOf id =
      if id = game.defenderId then game.handOf id ++ tableCards game.table
      else game.handOf id := by
  rw [((fillsUp_taken attacks).empty empty).2, handOf_takeTable attacks.defender_mem]
  split
  · rename_i same
    rw [same]
  · rfl

/-! ## Six cards for everybody while the deck lasts -/

/-- How many cards a player has laid on the table: attacking ones if the player attacks, covers if
the player defends. -/
def laidBy (game : Game) (id : String) : Nat :=
  (if id = game.attackerId then game.table.length else 0) +
    if id = game.defenderId then game.table.countP TableEntry.isBeaten else 0

/-- As long as there are cards in the deck every player has six, counting those laid on the
table. -/
def Stocked (game : Game) : Prop :=
  game.deck ≠ [] → ∀ id ∈ game.seatIds, handSize ≤ (game.handOf id).length + game.laidBy id

theorem Stocked.congr {first second : Game} (stocked : first.Stocked)
    (deck : second.deck = first.deck) (players : second.players = first.players)
    (table : second.table = first.table) (attacker : second.attackerId = first.attackerId)
    (defender : second.defenderId = first.defenderId) : second.Stocked := by
  intro left id seated
  have enough := stocked (deck ▸ left) id (by rwa [seatIds, ← players])
  rw [handOf_congr players]
  unfold laidBy at *
  rwa [table, attacker, defender]

theorem Stocked.pushEvent {game : Game} (stocked : game.Stocked) (event : Event) :
    (game.pushEvent event).Stocked := stocked.congr rfl rfl rfl rfl rfl

/-- When a round has been closed, everybody has six cards or the deck is empty. -/
theorem stocked_of_fillsUp {before after : Game} (fills : before.FillsUp after before.seatIds)
    (seats : after.seatIds = before.seatIds) : after.Stocked := by
  intro left id seated
  exact Nat.le_add_right_of_le (fills.full left id (seats ▸ seated))

theorem stocked_resolveRound {game : Game} {place : Nat} (attacks : game.AttacksFrom place)
    (switch : Bool) : (game.resolveRound switch).Stocked :=
  stocked_of_fillsUp (fillsUp_resolveRound attacks switch)
    (seatIds_congr (seating_eq_of_terms (terms_resolveRound game switch)))

theorem stocked_taken {game : Game} {place : Nat} (attacks : game.AttacksFrom place) :
    game.taken.Stocked := by
  have fills := fillsUp_taken attacks
  rw [← seatIds_congr (seating_eq_of_terms (terms_takeTable game game.defenderId))] at fills
  exact stocked_of_fillsUp fills
    (seatIds_congr (seating_eq_of_terms ((terms_passOver _ _).trans (terms_resolveRound _ _))))

theorem laidBy_layAttack (game : Game) (userId : String) (card : Card) (now : Instant)
    (id : String) :
    (game.layAttack userId card now).laidBy id =
      game.laidBy id + if id = game.attackerId then 1 else 0 := by
  simp only [laidBy, layAttack, pushEvent, List.length_append, List.length_singleton,
    List.countP_append, List.countP_singleton, TableEntry.isBeaten, Option.isSome_none,
    Bool.false_eq_true, if_false, Nat.add_zero]
  split <;> omega

theorem stocked_attack {game : Game} (stocked : game.Stocked) {card : Card}
    (held : card ∈ game.handOf game.attackerId) (now : Instant) :
    ((game.withoutCard game.attackerId card).layAttack game.attackerId card now).Stocked := by
  intro left id seated
  have seats := seatIds_congr (seating_eq_of_terms
    ((terms_layAttack _ game.attackerId card now).trans
      (terms_withoutCard game game.attackerId card)))
  have enough : handSize ≤ (game.handOf id).length + game.laidBy id :=
    stocked left id (seats ▸ seated)
  have positive := List.length_pos_of_mem held
  have laid := laidBy_layAttack (game.withoutCard game.attackerId card) game.attackerId card now id
  have hand := handOf_withoutCard held id
  rw [← handOf_congr (show ((game.withoutCard game.attackerId card).layAttack game.attackerId card
    now).players = (game.withoutCard game.attackerId card).players from rfl)] at hand
  have before : (game.withoutCard game.attackerId card).laidBy id = game.laidBy id := rfl
  have attacker : (game.withoutCard game.attackerId card).attackerId = game.attackerId := rfl
  rw [hand, laid, before, attacker]
  by_cases same : id = game.attackerId
  · rw [if_pos same, if_pos same, List.length_erase_of_mem held]
    rw [same] at enough ⊢
    omega
  · rwa [if_neg same, if_neg same]

theorem countP_updateFirst_cover {table : List TableEntry} {target : Card} (card : Card)
    (opened : ∃ entry ∈ table, Check.isOpenTarget target entry = true) :
    (updateFirst (Check.isOpenTarget target) (fun entry => { entry with cover := some card })
      table).countP TableEntry.isBeaten = table.countP TableEntry.isBeaten + 1 := by
  obtain ⟨before, later, split, changed⟩ := exists_covered card opened
  rw [changed, split]
  simp [List.countP_cons, TableEntry.isBeaten]
  omega

theorem laidBy_cover {game : Game} {target : Card} (card : Card)
    (opened : ∃ entry ∈ game.table, Check.isOpenTarget target entry = true) (id : String) :
    (game.cover target card).laidBy id =
      game.laidBy id + if id = game.defenderId then 1 else 0 := by
  simp only [laidBy, cover, length_updateFirst, countP_updateFirst_cover card opened]
  by_cases defends : id = game.defenderId
  · simp only [if_pos defends]
    omega
  · simp only [if_neg defends]

theorem stocked_defend {game : Game} (stocked : game.Stocked) {target card : Card}
    (held : card ∈ game.handOf game.defenderId)
    (opened : ∃ entry ∈ game.table, Check.isOpenTarget target entry = true) (now : Instant) :
    ((game.withoutCard game.defenderId card).layCover game.defenderId target card now).Stocked := by
  have covered : ((game.withoutCard game.defenderId card).cover target card).Stocked := by
    intro left id seated
    have seats := seatIds_congr (seating_eq_of_terms
      (terms_withoutCard game game.defenderId card))
    have enough : handSize ≤ (game.handOf id).length + game.laidBy id :=
      stocked left id (seats ▸ seated)
    have positive := List.length_pos_of_mem held
    have laid := @laidBy_cover (game.withoutCard game.defenderId card) target card opened id
    have hand := handOf_withoutCard held id
    rw [← handOf_congr (show ((game.withoutCard game.defenderId card).cover target card).players =
      (game.withoutCard game.defenderId card).players from rfl)] at hand
    have before : (game.withoutCard game.defenderId card).laidBy id = game.laidBy id := rfl
    have defender : (game.withoutCard game.defenderId card).defenderId = game.defenderId := rfl
    rw [hand, laid, before, defender]
    by_cases same : id = game.defenderId
    · rw [if_pos same, if_pos same, List.length_erase_of_mem held]
      rw [same] at enough ⊢
      omega
    · rwa [if_neg same, if_neg same]
  rw [layCover_keeps Stocked fun _ _ _ => rfl]
  exact covered

/-- **A command leaves everybody with six cards while the deck lasts.** -/
theorem stocked_apply {game : Game} {place : Nat} (attacks : game.AttacksFrom place)
    (stocked : game.Stocked) (userId : String) (action : Action) (now : Instant) :
    (game.apply userId action now).game.Stocked := by
  have effect := apply_effect game userId action now
  generalize (game.apply userId action now).violation = verdict,
    (game.apply userId action now).game = result at effect ⊢
  cases effect with
  | unregistered | readyAgain | attackRefused | defendRefused | endRefused | takeRefused
  | takeUnseated | timerRefused => exact stocked
  | ready | start | defendLate | vote | timerShown => exact stocked.congr rfl rfl rfl rfl rfl
  | attackLate => exact stocked_resolveRound attacks true
  | attack card permitted =>
    rw [permitted.attacker]
    exact stocked_attack stocked (permitted.attacker ▸ mem_handOf.mpr permitted.held) now
  | defend target card permitted =>
    rw [permitted.defender]
    exact stocked_defend stocked (permitted.defender ▸ mem_handOf.mpr permitted.held)
      permitted.open_ now
  | endRound =>
    have voted : (game.voteEnd userId).AttacksFrom place := attacks.congr rfl rfl rfl
    rw [endRound_keeps Stocked fun _ _ => rfl]
    exact stocked_resolveRound voted true
  | take permitted =>
    rw [permitted.defender]
    exact stocked_taken attacks
  | timerClosed => exact (stocked_resolveRound attacks true).pushEvent _

/-- A dealt hand has six cards if any are left. -/
theorem length_hand_dealHands {entrants : List Entrant} {seat : Nat} {cards : List Card}
    (left : (dealHands seat entrants cards).2 ≠ []) :
    ∀ player ∈ (dealHands seat entrants cards).1, player.hand.length = handSize := by
  induction entrants generalizing seat cards with
  | nil => simp [dealHands]
  | cons entrant rest hypothesis =>
    have smaller : ∀ (rest : List Entrant) (seat : Nat) (cards : List Card),
        (dealHands seat rest cards).2.length ≤ cards.length := by
      intro rest
      induction rest with
      | nil => exact fun _ _ => Nat.le_refl _
      | cons entrant rest shorter =>
        intro seat cards
        refine (shorter (seat + 1) (draw handSize cards).2).trans ?_
        simp only [draw, List.length_take]
        omega
    simp only [dealHands] at left ⊢
    rw [List.forall_mem_cons]
    refine ⟨?_, hypothesis left⟩
    have some_ := (List.length_pos_iff.mpr left).trans_le (smaller rest (seat + 1) _)
    simp only [draw, List.length_take] at some_
    show (draw handSize cards).1.length = handSize
    rw [length_draw]
    omega

theorem stocked_of_deal {id : String} {entrants : List Entrant} {settings : Settings}
    {seed : UInt64} {dealt : Game} (isDealt : deal id entrants settings seed = .ok dealt) :
    dealt.Stocked := by
  obtain ⟨-, trump, order, attackerSeat, -, -, rfl⟩ := deal_eq_ok isDealt
  intro left other seated
  obtain ⟨player, seat⟩ := Option.isSome_iff_exists.mp (isSome_player?_iff.mpr seated)
  have full : player.hand.length = handSize :=
    length_hand_dealHands left player (List.mem_of_find?_eq_some seat)
  rw [handOf_of_player? seat, full]
  exact Nat.le_add_right _ _

/-- **In every game that a run reaches, everybody has six cards while the deck lasts.** -/
theorem stocked_afterAll {game : Game} {place : Nat} (attacks : game.AttacksFrom place)
    (stocked : game.Stocked) (steps : List Step) : (game.afterAll steps).Stocked := by
  induction steps generalizing game place with
  | nil => exact stocked
  | cons step steps hypothesis =>
    refine hypothesis (attacks.after step) ?_
    cases step with
    | command userId action now => exact stocked_apply attacks stocked userId action now
    | handOut => exact stocked.congr rfl rfl rfl rfl rfl

end Game

end Durak
