import Durak.Proofs.Dealt
import Durak.Proofs.Run
import Mathlib.Algebra.Order.Group.Multiset
import Mathlib.Tactic.Abel

/-!
# No card is lost

The cards of a game lie in the deck, in hands, on the table (attacking or covering) and in the
discard pile.  No command changes which cards these are and how often each occurs, whatever game it
is applied to, and whether it is accepted, rejected, or rejected with the round closed
(`cards_apply`).

A dealt game holds the pack, so along a run every card lies in exactly one place.

The proofs count with multisets: `Game.cards` is the sum of what the four places hold, and a change
in one place is compared with the change in another.
-/

set_option autoImplicit false

namespace Durak

/-! ## Sums over lists -/

/-- When one element of a list is changed, the sum over the list changes by what that element
adds to it. -/
theorem exists_sum_updateFirst {α β : Type} [AddCommMonoid β] {condition : α → Bool}
    {items : List α} {found : α} (first : items.find? condition = some found) (weight : α → β) :
    ∃ others, (items.map weight).sum = weight found + others ∧
      ∀ change, ((updateFirst condition change items).map weight).sum =
        weight (change found) + others := by
  obtain ⟨before, after, split, changed⟩ := exists_updateFirst first
  refine ⟨(before.map weight).sum + (after.map weight).sum, ?_, fun change => ?_⟩
  · rw [split]
    simp only [List.map_append, List.map_cons, List.sum_append, List.sum_cons]
    abel
  · rw [changed change]
    simp only [List.map_append, List.map_cons, List.sum_append, List.sum_cons]
    abel

/-- The elements of a flattened list, counted by the parts. -/
theorem coe_flatMap {α β : Type} (parts : α → List β) (items : List α) :
    ((items.flatMap parts : List β) : Multiset β) =
      (items.map fun item => (parts item : Multiset β)).sum := by
  induction items with
  | nil => rfl
  | cons item rest hypothesis =>
    rw [List.flatMap_cons, ← Multiset.coe_add, hypothesis, List.map_cons, List.sum_cons]

/-! ## Where the cards lie -/

/-- The cards in the hands of some players. -/
def handCards (players : List Player) : Multiset Card :=
  (players.map fun player => (player.hand : Multiset Card)).sum

namespace Game

/-- All cards of a game, in one list: the deck, the hands in seat order, the attacking cards on the
table, the covering ones, and the discard pile. -/
def allCards (game : Game) : List Card :=
  game.deck ++ game.players.flatMap (·.hand) ++ game.table.map (·.card) ++
    game.table.filterMap (·.cover) ++ game.discard

/-- All cards of a game, without order. -/
def cards (game : Game) : Multiset Card :=
  game.deck + handCards game.players + tableCards game.table + game.discard

theorem coe_tableCards_eq (table : List TableEntry) :
    (tableCards table : Multiset Card) =
      (table.map (·.card) : Multiset Card) + (table.filterMap (·.cover) : Multiset Card) := by
  induction table with
  | nil => rfl
  | cons entry rest hypothesis =>
    obtain ⟨card, cover⟩ := entry
    have split : tableCards (⟨card, cover⟩ :: rest) = card :: cover.toList ++ tableCards rest := rfl
    rw [split, ← Multiset.coe_add, hypothesis]
    cases cover with
    | none =>
      simp only [Option.toList_none, List.map_cons, List.filterMap_cons_none, ← Multiset.cons_coe,
        Multiset.cons_add, Multiset.coe_nil, zero_add]
    | some cover =>
      simp only [Option.toList_some, List.map_cons, List.filterMap_cons, ← Multiset.cons_coe,
        Multiset.cons_add, Multiset.add_cons, Multiset.coe_nil, zero_add]
      exact Multiset.cons_swap card cover _

theorem coe_allCards (game : Game) : (game.allCards : Multiset Card) = game.cards := by
  simp only [allCards, cards, handCards, ← Multiset.coe_add, coe_flatMap, coe_tableCards_eq]
  abel

/-! ## Every part of a command keeps the cards -/

/-- When a seated player is changed, the cards in hands change by that player's hand. -/
theorem exists_handCards_updatePlayer {game : Game} {id : String} {player : Player}
    (seat : game.player? id = some player) :
    ∃ others, handCards game.players = player.hand + others ∧
      ∀ change, handCards (game.updatePlayer id change).players =
        (change player).hand + others :=
  exists_sum_updateFirst seat fun player => (player.hand : Multiset Card)

/-- Games that agree on the four places hold the same cards. -/
theorem cards_congr {first second : Game} (deck : first.deck = second.deck)
    (players : first.players = second.players) (table : first.table = second.table)
    (discard : first.discard = second.discard) : first.cards = second.cards := by
  unfold cards
  rw [deck, players, table, discard]

theorem cards_pushEvent (game : Game) (event : Event) :
    (game.pushEvent event).cards = game.cards := cards_congr rfl rfl rfl rfl

/-- What a player draws is taken from the deck. -/
theorem replenished_cards (player : Player) (deck : List Card) :
    ((player.replenished deck).2 : Multiset Card) + (player.replenished deck).1.hand =
      (deck : Multiset Card) + player.hand := by
  unfold Player.replenished
  split
  · rfl
  · have kept := congrArg Multiset.ofList (draw_append (handSize - player.hand.length) deck)
    rw [← Multiset.coe_add, Multiset.coe_reverse] at kept
    show ((draw (handSize - player.hand.length) deck).2 : Multiset Card) +
      ((player.hand ++ (draw (handSize - player.hand.length) deck).1 : List Card) :
        Multiset Card) = _
    rw [← Multiset.coe_add, ← kept]
    abel

theorem cards_replenish (game : Game) (id : String) : (game.replenish id).cards = game.cards := by
  cases seat : game.player? id with
  | none => rw [replenish_of_unseated seat]
  | some player =>
    obtain ⟨others, before, after⟩ := exists_handCards_updatePlayer seat
    have drawn := replenished_cards player game.deck
    rw [replenish_of_player? seat]
    show ((player.replenished game.deck).2 : Multiset Card) +
      handCards (game.updatePlayer id fun _ => (player.replenished game.deck).1).players +
      tableCards game.table + game.discard = game.cards
    rw [after, ← add_assoc ((player.replenished game.deck).2 : Multiset Card), drawn, cards, before]
    abel

theorem cards_replenishAll (game : Game) : game.replenishAll.cards = game.cards :=
  foldl_replenish_keeps cards cards_replenish game.drawingOrder game

theorem cards_switchRoles (game : Game) : game.switchRoles.cards = game.cards :=
  switchRoles_keeps cards (fun _ _ _ => rfl) game

theorem cards_clearTable (game : Game) : game.clearTable.cards = game.cards := by
  show (game.deck : Multiset Card) + handCards game.players + tableCards [] +
    ((game.discard ++ tableCards game.table : List Card) : Multiset Card) = game.cards
  have nothing : ((tableCards [] : List Card) : Multiset Card) = 0 := rfl
  rw [nothing, ← Multiset.coe_add, cards]
  abel

theorem cards_resolveRound (game : Game) (switch : Bool) :
    (game.resolveRound switch).cards = game.cards := by
  rw [resolveRound_eq, cards_pushEvent, cards_clearTable]
  cases switch with
  | false => exact cards_replenishAll game
  | true => exact (cards_switchRoles game.replenishAll).trans (cards_replenishAll game)

/-- The hand and the table exchange a card: it is taken from the hand of a player who holds it. -/
theorem cards_withoutCard {game : Game} {userId : String} {card : Card}
    (held : ∃ player, game.player? userId = some player ∧ card ∈ player.hand) :
    card ::ₘ (game.withoutCard userId card).cards = game.cards := by
  obtain ⟨player, seat, member⟩ := held
  obtain ⟨others, before, after⟩ := exists_handCards_updatePlayer seat
  have taken : card ::ₘ ((player.hand.erase card : List Card) : Multiset Card) = player.hand := by
    rw [← Multiset.coe_erase]
    exact Multiset.cons_erase member
  show card ::ₘ ((game.deck : Multiset Card) + handCards (game.updatePlayer userId _).players +
    tableCards game.table + game.discard) = game.cards
  rw [after, cards, before, ← taken]
  simp only [Multiset.cons_add, Multiset.add_cons]

theorem cards_layAttack (game : Game) (userId : String) (card : Card) (now : Instant) :
    (game.layAttack userId card now).cards = card ::ₘ game.cards := by
  show (game.deck : Multiset Card) + handCards game.players +
    tableCards (game.table ++ [⟨card, none⟩]) + game.discard = card ::ₘ game.cards
  have laid : tableCards (game.table ++ [⟨card, none⟩]) = tableCards game.table ++ [card] := by
    simp [tableCards, TableEntry.cards]
  rw [laid, ← Multiset.coe_add, Multiset.coe_singleton, cards, ← Multiset.singleton_add]
  abel

/-- A cover is laid over one card that had none. -/
theorem exists_covered {table : List TableEntry} {target : Card} (card : Card)
    (opened : ∃ entry ∈ table, Check.isOpenTarget target entry = true) :
    ∃ before later, table = before ++ ⟨target, none⟩ :: later ∧
      updateFirst (Check.isOpenTarget target) (fun entry => { entry with cover := some card })
        table = before ++ ⟨target, some card⟩ :: later := by
  obtain ⟨found, first⟩ := Option.isSome_iff_exists.mp (List.find?_isSome.mpr opened)
  obtain ⟨before, later, split, changed⟩ := exists_updateFirst first
  have isOpen := List.find?_some first
  obtain ⟨attacking, cover⟩ := found
  simp only [Check.isOpenTarget, TableEntry.isBeaten, Bool.and_eq_true, decide_eq_true_eq,
    Bool.not_eq_true', Option.isSome_eq_false_iff, Option.isNone_iff_eq_none] at isOpen
  obtain ⟨rfl, rfl⟩ := isOpen
  exact ⟨before, later, split, changed _⟩

theorem coe_tableCards_updateFirst {table : List TableEntry} {target card : Card}
    (open_ : ∃ entry ∈ table, Check.isOpenTarget target entry = true) :
    (tableCards (updateFirst (Check.isOpenTarget target)
        (fun entry => { entry with cover := some card }) table) : Multiset Card) =
      card ::ₘ (tableCards table : Multiset Card) := by
  obtain ⟨before, later, split, changed⟩ := exists_covered card open_
  have uncovered : tableCards table = tableCards before ++ [target] ++ tableCards later := by
    simp [split, tableCards, TableEntry.cards]
  have covered : tableCards (before ++ ⟨target, some card⟩ :: later) =
      tableCards before ++ [target] ++ card :: tableCards later := by
    simp [tableCards, TableEntry.cards]
  rw [changed, covered, uncovered, Multiset.cons_coe, Multiset.coe_eq_coe]
  exact List.perm_middle

theorem cards_layCover {game : Game} {userId : String} {target card : Card} {now : Instant}
    (open_ : ∃ entry ∈ game.table, Check.isOpenTarget target entry = true) :
    (game.layCover userId target card now).cards = card ::ₘ game.cards := by
  rw [layCover_keeps cards fun _ _ _ => rfl]
  show (game.deck : Multiset Card) + handCards game.players + tableCards (updateFirst _ _ _) +
    game.discard = card ::ₘ game.cards
  rw [coe_tableCards_updateFirst open_, cards, ← Multiset.singleton_add, ← Multiset.singleton_add]
  abel

/-- The whole table goes to the hand of a seated player. -/
theorem cards_takeTable {game : Game} {userId : String} {player : Player}
    (seat : game.player? userId = some player) :
    (game.takeTable userId).cards = game.cards := by
  obtain ⟨others, before, after⟩ := exists_handCards_updatePlayer seat
  show (game.deck : Multiset Card) + handCards (game.updatePlayer userId _).players +
    tableCards [] + game.discard = game.cards
  have nothing : ((tableCards [] : List Card) : Multiset Card) = 0 := rfl
  rw [after, nothing, cards, before]
  simp only [← Multiset.coe_add]
  abel

theorem cards_passOver (game : Game) (userId : String) :
    (game.passOver userId).cards = game.cards :=
  passOver_keeps cards (fun _ _ _ => rfl) game userId

theorem cards_endRound (game : Game) : game.endRound.game.cards = game.cards :=
  (endRound_keeps cards (fun _ _ => rfl) game).trans (cards_resolveRound game true)

/-- No command changes the cards of a game. -/
theorem cards_apply (game : Game) (userId : String) (action : Action) (now : Instant) :
    (game.apply userId action now).game.cards = game.cards := by
  have effect := apply_effect game userId action now
  generalize (game.apply userId action now).violation = verdict,
    (game.apply userId action now).game = result at effect ⊢
  cases effect with
  | unregistered | readyAgain | attackRefused | defendRefused | endRefused | takeRefused
  | takeUnseated | timerRefused => rfl
  | ready | start | defendLate | vote | timerShown => exact cards_congr rfl rfl rfl rfl
  | attackLate => exact cards_resolveRound game true
  | attack card permitted =>
    exact (cards_layAttack _ userId card now).trans (cards_withoutCard permitted.held)
  | defend target card permitted =>
    have opened : ∃ entry ∈ (game.withoutCard userId card).table,
        Check.isOpenTarget target entry = true := permitted.open_
    exact (cards_layCover opened).trans (cards_withoutCard permitted.held)
  | endRound =>
    rw [cards_endRound]
    exact cards_congr rfl rfl rfl rfl
  | take permitted player seat =>
    exact (cards_passOver _ userId).trans
      ((cards_resolveRound _ false).trans (cards_takeTable seat))
  | timerClosed => exact (cards_pushEvent _ _).trans (cards_resolveRound game true)

theorem cards_afterAll (game : Game) (steps : List Step) :
    (game.afterAll steps).cards = game.cards :=
  @invariant_afterAll (fun later => later.cards = game.cards)
    (fun later step same => by
      cases step with
      | command userId action now => exact (cards_apply later userId action now).trans same
      | handOut => exact same)
    game rfl steps

/-! ## A dealt game holds the pack -/

/-- Hands and deck together are the cards that were dealt. -/
theorem cards_dealHands (entrants : List Entrant) (seat : Nat) (cards : List Card) :
    ((dealHands seat entrants cards).2 : Multiset Card) +
      handCards (dealHands seat entrants cards).1 = cards := by
  induction entrants generalizing seat cards with
  | nil => simp [dealHands, handCards]
  | cons entrant rest hypothesis =>
    have left := hypothesis (seat + 1) (draw handSize cards).2
    have kept := congrArg Multiset.ofList (draw_append handSize cards)
    rw [← Multiset.coe_add, Multiset.coe_reverse] at kept
    simp only [handCards] at left
    simp only [dealHands, handCards, List.map_cons, List.sum_cons]
    rw [← kept, ← left]
    abel

theorem cards_of_deal {id : String} {entrants : List Entrant} {settings : Settings}
    {seed : UInt64} {dealt : Game} (isDealt : deal id entrants settings seed = .ok dealt) :
    dealt.cards = (Card.pack : Multiset Card) := by
  obtain ⟨-, trump, order, attackerSeat, perm, -, rfl⟩ := deal_eq_ok isDealt
  have empty : ((tableCards [] : List Card) : Multiset Card) = 0 := rfl
  have dealtCards := cards_dealHands entrants 0 order
  rw [Multiset.coe_eq_coe.mpr perm] at dealtCards
  rw [cards]
  simp only [arranged, empty, Multiset.coe_nil, add_zero]
  exact dealtCards

theorem length_allCards (game : Game) : game.allCards.length = game.cardCount := by
  have table := congrArg Multiset.card (coe_tableCards_eq game.table)
  simp only [Multiset.coe_card, Multiset.card_add, List.length_map] at table
  simp only [allCards, cardCount, List.length_append, List.length_flatMap, List.length_map, table]
  omega

/-- Every card occurs once in the pack. -/
theorem count_pack (card : Card) : Card.pack.count card = 1 := by
  obtain ⟨suit, rank⟩ := card
  cases suit <;> cases rank <;> decide

theorem nodup_pack : Card.pack.Nodup :=
  List.nodup_iff_count_le_one.mpr fun card => (count_pack card).le

/-- In a game that holds the pack no card lies in two places. -/
theorem nodup_of_whole {game : Game} (whole : game.cards = (Card.pack : Multiset Card)) :
    (game.deck ++ game.players.flatMap (·.hand) ++ tableCards game.table ++
      game.discard).Nodup := by
  have listed : game.cards =
      ((game.deck ++ game.players.flatMap (·.hand) ++ tableCards game.table ++ game.discard :
        List Card) : Multiset Card) := by
    simp only [cards, handCards, ← Multiset.coe_add, coe_flatMap]
  rw [listed, Multiset.coe_eq_coe] at whole
  exact whole.nodup_iff.mpr nodup_pack

theorem allCards_perm_pack {id : String} {entrants : List Entrant} {settings : Settings}
    {seed : UInt64} {dealt : Game} (isDealt : deal id entrants settings seed = .ok dealt)
    (steps : List Step) : (dealt.afterAll steps).allCards.Perm Card.pack := by
  rw [← Multiset.coe_eq_coe, coe_allCards, cards_afterAll, cards_of_deal isDealt]

/-- In every game that a run reaches there are thirty-six cards. -/
theorem cardCount_afterAll {id : String} {entrants : List Entrant} {settings : Settings}
    {seed : UInt64} {dealt : Game} (isDealt : deal id entrants settings seed = .ok dealt)
    (steps : List Step) : (dealt.afterAll steps).cardCount = Card.packSize := by
  rw [← length_allCards, (allCards_perm_pack isDealt steps).length_eq, Card.length_pack]

/-- **No card is lost and none is doubled.**  A command of anybody at any instant leaves the cards
of any game the same, however often each occurs.  So in every game that a run from a deal reaches
each card lies in exactly one place, and there are thirty-six. -/
theorem apply_conserves_cards :
    (∀ (game : Game) (userId : String) (action : Action) (now : Instant),
      (game.apply userId action now).game.allCards.Perm game.allCards) ∧
      ∀ (id : String) (entrants : List Entrant) (settings : Settings) (seed : UInt64)
        (dealt : Game), deal id entrants settings seed = .ok dealt → ∀ steps : List Step,
          (∀ card ∈ Card.pack, (dealt.afterAll steps).allCards.count card = 1) ∧
            (dealt.afterAll steps).cardCount = Card.packSize := by
  constructor
  · intro game userId action now
    rw [← Multiset.coe_eq_coe, coe_allCards, coe_allCards, cards_apply]
  · intro id entrants settings seed dealt isDealt steps
    refine ⟨fun card _ => ?_, cardCount_afterAll isDealt steps⟩
    rw [(allCards_perm_pack isDealt steps).count_eq, count_pack]

/-- Two players get ready, the first attacker's timer runs out, and the round is closed by an
attack that comes too late. -/
theorem apply_conserves_cards_late_attack :
    ∃ dealt, deal "g" [⟨"a", ""⟩, ⟨"b", ""⟩] ⟨Double.ofInt 30⟩ 7 = .ok dealt ∧
      (dealt.afterAll [
        .command "a" .ready (.ofUnixSeconds 0), .command "b" .ready (.ofUnixSeconds 0),
        .command "b" (.attack ⟨.clubs, .nine⟩) (.ofUnixSeconds 60), .handOut]).allCards.count
          ⟨.clubs, .nine⟩ = 1 := by
  obtain ⟨dealt, isDealt⟩ := exists_deal_eq_ok setupFault?_pair "g" 7
  exact ⟨dealt, isDealt, (apply_conserves_cards.2 _ _ _ _ dealt isDealt _).1 _ (Card.mem_pack _)⟩

end Game

end Durak
