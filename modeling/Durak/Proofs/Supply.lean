import Durak.Proofs.Hands
import Durak.Proofs.Packs

/-!
# Hands while the deck lasts

As long as a card is left in the deck no hand is short of six but by what its player has laid on the
table, and who has laid what is told by the roles: the attacker the attacking cards, the defender
the covers, everybody else nothing.  That much is `Stocked`, and every run keeps it.

A table holds at most six attacking cards and no more covers than those.  So while the deck lasts
and there is room on the table both sides still hold a card; and a defender without cards, the
reason to refuse an attack, has laid six covers, which is a full table with every card beaten
(`hands_last_as_long_as_the_deck`).
-/

set_option autoImplicit false

namespace Durak

namespace Game

variable {game : Game}

/-! ## Who has to hold how much -/

/-- Whoever neither attacks nor defends has laid nothing. -/
theorem laidBy_observer {id : String} (attacks : id ≠ game.attackerId)
    (defends : id ≠ game.defenderId) : game.laidBy id = 0 := by
  rw [laidBy, if_neg attacks, if_neg defends]

theorem laidBy_attacker (apart : game.attackerId ≠ game.defenderId) :
    game.laidBy game.attackerId = game.table.length := by
  rw [laidBy, if_pos rfl, if_neg apart, Nat.add_zero]

theorem laidBy_defender (apart : game.attackerId ≠ game.defenderId) :
    game.laidBy game.defenderId = game.table.countP TableEntry.isBeaten := by
  rw [laidBy, if_neg apart.symm, if_pos rfl, Nat.zero_add]

/-! ## Who is without cards -/

/-- An attack is refused because the defender has no cards only if that is so. -/
theorem handOf_defender_of_attackViolation? {userId : String} {card : Card} {now : Instant}
    (reported : game.attackViolation? userId card now = some .defenderNoCards) :
    game.handOf game.defenderId = [] := by
  have member := mem_of_firstViolation reported
  simp only [List.mem_cons, List.not_mem_nil, or_false] at member
  rcases member with check | check | check | check | check | check | check
  · cases (Violation.unless_eq_some.mp check.symm).2
  · cases (Violation.unless_eq_some.mp check.symm).2
  · rcases userHasCard_eq_some check.symm with other | other <;> cases other
  · cases (Violation.unless_eq_some.mp check.symm).2
  · by_contra holds
    have opposed := defenderHasCards_eq_none.mpr (handOf_ne_nil.mp holds)
    cases opposed.symm.trans check.symm
  · cases (Violation.unless_eq_some.mp check.symm).2
  · cases rankMayJoin_eq_some check.symm

/-- Nothing but an attack is refused for that reason. -/
theorem handOf_defender_of_refused {userId : String} {action : Action} {now : Instant}
    (refused : (game.apply userId action now).violation = some .defenderNoCards) :
    (∃ card, action = .attack card) ∧ game.handOf game.defenderId = [] := by
  have effect := apply_effect game userId action now
  generalize (game.apply userId action now).violation = verdict,
    (game.apply userId action now).game = result at effect refused
  subst refused
  cases effect with
  | attackRefused card violation reported =>
    exact ⟨⟨card, rfl⟩, handOf_defender_of_attackViolation? reported⟩
  | defendRefused target card violation reported =>
    exact absurd (defendViolation?_mem reported) (by decide)
  | endRefused violation reported =>
    exact absurd (endAttackViolation?_mem reported) (by decide)
  | takeRefused violation reported => exact absurd (takeViolation?_mem reported) (by decide)

/-- Whoever has laid fewer cards than there is room for still holds one of the six. -/
theorem ne_nil_of_room {hand : List Card} {laid : Nat} (enough : handSize ≤ hand.length + laid)
    (room : laid < tableLimit) : hand ≠ [] := by
  rintro rfl
  rw [List.length_nil, Nat.zero_add] at enough
  exact Nat.not_lt.mpr enough room

/-- Six covers on a table of at most six entries leave no entry open. -/
theorem full_of_countP {table : List TableEntry} (bounded : table.length ≤ tableLimit)
    (covers : tableLimit ≤ table.countP TableEntry.isBeaten) :
    table.length = tableLimit ∧ ∀ entry ∈ table, entry.isBeaten = true := by
  have most : table.countP TableEntry.isBeaten ≤ table.length := List.countP_le_length
  exact ⟨by omega, List.countP_eq_length.mp (by omega)⟩

/-- **Hands do not run low while the deck lasts.**  In every game that a run from a deal reaches,
as long as a card is left in the deck, whoever neither attacks nor defends holds at least six; the
attacker does, counting the attacking cards on the table, and so does the defender, counting the
covers.  Hence both hold a card while there is room on the table, and that the defender has no
cards is answered only to an attack, and only when the table is full and every card on it is
beaten. -/
theorem hands_last_as_long_as_the_deck {id : String} {entrants : List Entrant}
    {settings : Settings} {seed : UInt64} {dealt : Game}
    (isDealt : deal id entrants settings seed = .ok dealt) (steps : List Step)
    (left : (dealt.afterAll steps).deck ≠ []) :
    let game := dealt.afterAll steps
    (∀ player ∈ game.players, player.id ≠ game.attackerId → player.id ≠ game.defenderId →
        handSize ≤ player.hand.length) ∧
      handSize ≤ (game.handOf game.attackerId).length + game.table.length ∧
      handSize ≤ (game.handOf game.defenderId).length +
        game.table.countP TableEntry.isBeaten ∧
      (game.table.length < tableLimit →
        game.handOf game.attackerId ≠ [] ∧ game.handOf game.defenderId ≠ []) ∧
      ∀ userId action now,
        (game.apply userId action now).violation = some .defenderNoCards →
          (∃ card, action = .attack card) ∧ game.table.length = tableLimit ∧
            ∀ entry ∈ game.table, entry.isBeaten = true := by
  intro game
  obtain ⟨place, start⟩ := attacksFrom_of_deal isDealt
  obtain ⟨place, attacks⟩ : ∃ place, game.AttacksFrom place := ⟨_, start.afterAll steps⟩
  have stocked : game.Stocked := stocked_afterAll start (stocked_of_deal isDealt) steps
  have apart := attacks.attacker_ne_defender
  have attacking := stocked left game.attackerId attacks.attacker_mem
  have defending := stocked left game.defenderId attacks.defender_mem
  rw [laidBy_attacker apart] at attacking
  rw [laidBy_defender apart] at defending
  have bounded : game.table.length ≤ tableLimit := by
    refine length_table_afterAll ?_ steps
    obtain ⟨-, trump, order, attackerSeat, -, -, rfl⟩ := deal_eq_ok isDealt
    exact Nat.zero_le tableLimit
  have covers : game.table.countP TableEntry.isBeaten ≤ game.table.length := List.countP_le_length
  refine ⟨fun player seated notAttacker notDefender => ?_, attacking, defending,
    fun room => ⟨ne_nil_of_room attacking room, ne_nil_of_room defending (covers.trans_lt room)⟩,
    fun userId action now refused => ?_⟩
  · have enough := stocked left player.id (List.mem_map_of_mem seated)
    rwa [laidBy_observer notAttacker notDefender,
      handOf_of_player? (player?_of_mem attacks.distinct seated)] at enough
  · obtain ⟨isAttack, none_⟩ := handOf_defender_of_refused refused
    rw [none_, List.length_nil, Nat.zero_add] at defending
    exact ⟨isAttack, full_of_countP bounded defending⟩

/-- A duel in which one player takes five cards up, beats the sixth and attacks.  The other one
beats six cards with all there are in the hand. -/
def sixCovers : List Step :=
  let lays (id : String) (card : Card) : Step := .command id (.attack card) (.ofUnixSeconds 1)
  let beats (id : String) (target card : Card) : Step :=
    .command id (.defend target card) (.ofUnixSeconds 1)
  let takes : Step := .command "a" .takeAllCards (.ofUnixSeconds 1)
  [.command "a" .ready (.ofUnixSeconds 0), .command "b" .ready (.ofUnixSeconds 0),
    lays "b" ⟨.hearts, .seven⟩, takes, lays "b" ⟨.spades, .eight⟩, takes,
    lays "b" ⟨.spades, .six⟩, takes, lays "b" ⟨.spades, .ten⟩, takes,
    lays "b" ⟨.diamonds, .jack⟩, takes,
    lays "b" ⟨.diamonds, .king⟩, beats "a" ⟨.diamonds, .king⟩ ⟨.clubs, .eight⟩,
    .command "b" .endAttack (.ofUnixSeconds 1),
    lays "a" ⟨.spades, .seven⟩, beats "b" ⟨.spades, .seven⟩ ⟨.spades, .queen⟩,
    lays "a" ⟨.hearts, .queen⟩, beats "b" ⟨.hearts, .queen⟩ ⟨.clubs, .nine⟩,
    lays "a" ⟨.hearts, .seven⟩, beats "b" ⟨.hearts, .seven⟩ ⟨.clubs, .jack⟩,
    lays "a" ⟨.hearts, .jack⟩, beats "b" ⟨.hearts, .jack⟩ ⟨.hearts, .king⟩,
    lays "a" ⟨.spades, .king⟩, beats "b" ⟨.spades, .king⟩ ⟨.clubs, .queen⟩,
    lays "a" ⟨.diamonds, .jack⟩, beats "b" ⟨.diamonds, .jack⟩ ⟨.diamonds, .ace⟩]

/-- With cards in the deck a seventh card is refused as the defender has none left, and the table
is full of beaten cards. -/
theorem hands_last_as_long_as_the_deck_against_six_covers :
    deal "g" [⟨"a", ""⟩, ⟨"b", ""⟩] ⟨Double.ofInt 30⟩ 7 = .ok duel ∧
      let game := duel.afterAll sixCovers
      game.deck ≠ [] ∧
        (game.apply "a" (.attack ⟨.clubs, .ace⟩) (.ofUnixSeconds 2)).violation =
          some .defenderNoCards ∧
        handSize ≤ (game.handOf game.attackerId).length + game.table.length ∧
        game.table.length = tableLimit ∧ ∀ entry ∈ game.table, entry.isBeaten = true := by
  have left : (duel.afterAll sixCovers).deck ≠ [] := by decide +kernel
  have refused : ((duel.afterAll sixCovers).apply "a" (.attack ⟨.clubs, .ace⟩)
      (.ofUnixSeconds 2)).violation = some .defenderNoCards := by decide +kernel
  obtain ⟨-, attacking, -, -, only⟩ := hands_last_as_long_as_the_deck deal_duel sixCovers left
  exact ⟨deal_duel, left, refused, attacking, (only _ _ _ refused).2⟩

end Game

end Durak
