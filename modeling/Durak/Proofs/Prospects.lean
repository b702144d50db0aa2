import Durak.Proofs.Timers

/-!
# Which games can be finished

As long as there are two cards in the deck, or one and somebody to draw it for, the players can use
up the deck and come to hands that can be played on (`InPlay.finishes_of_deck`).  Whether any other
game can be finished is decided by the round it is in.  The round can be brought to a close in
several ways, and the game can be finished exactly if one of them ends it, or leaves cards in the
deck, or leaves hands that can be played on.

`Hopeful` lists these ways, and `finishes_iff_hopeful` says that a started game that a run reaches
can be finished exactly if it is hopeful.  All other games are dead ends, and there are some
(`duel_can_be_stranded`).
-/

set_option autoImplicit false

namespace Durak

namespace Game

/-! ## Using up the deck -/

/-- Cards that have been put aside are not in the deck. -/
theorem deck_eq_nil_of_discard {game : Game} (all : game.cardCount ≤ game.discard.length) :
    game.deck = [] := by
  unfold cardCount at all
  exact List.length_eq_zero_iff.mp (by omega)

theorem cardCount_eq_card (game : Game) : game.cardCount = Multiset.card game.cards := by
  rw [← length_allCards, ← coe_allCards]
  rfl

/-- When the attacker of a game in which everybody has six cards puts one aside, everybody has six
cards again. -/
theorem Quiet.exists_six {game : Game} {place : Nat} (quiet : game.Quiet place)
    (left : game.deck ≠ []) (six : ∀ id ∈ game.seatIds, handSize ≤ (game.handOf id).length) :
    ∃ later, game.Leads later ∧ later.Quiet (place + 1) ∧
      later.discard.length = game.discard.length + 1 ∧
      ∀ id ∈ later.seatIds, handSize ≤ (later.handOf id).length := by
  have attacking := six game.attackerId quiet.attacks.attacker_mem
  have defending := six game.defenderId quiet.attacks.defender_mem
  have isSix : handSize = 6 := rfl
  obtain ⟨card, held⟩ := List.exists_mem_of_length_pos
    (show 0 < (game.handOf game.attackerId).length by omega)
  have opposed := List.length_pos_iff.mp
    (show 0 < (game.handOf game.defenderId).length by omega)
  have some_ := List.length_pos_iff.mpr left
  obtain ⟨later, leads, stillQuiet, fills, drawn, aside⟩ := quiet.exists_putAside held opposed
  refine ⟨later, leads, stillQuiet, ?_, fun id seated => ?_⟩
  · rw [aside, List.length_append, List.length_singleton]
  · by_cases attacks : id = game.attackerId
    · rw [attacks]
      omega
    · have grows := fills.grows id
      rw [handOf_attacked held, if_neg attacks] at grows
      exact (six id (seatIds_eq_of_terms leads.terms ▸ seated)).trans grows

/-- **Where everybody has six cards, the game can be finished.**  The attacker of each round puts a
card aside until the deck is used up, and then some hand has four cards. -/
theorem Quiet.finishes_of_six {game : Game} {place : Nat} (quiet : game.Quiet place)
    (whole : game.cards = (Card.pack : Multiset Card))
    (six : ∀ id ∈ game.seatIds, handSize ≤ (game.handOf id).length) : game.Finishes := by
  have isSix : handSize = 6 := rfl
  generalize size : game.cardCount - game.discard.length = remaining
  induction remaining generalizing game place with
  | zero =>
    have attacking := six game.attackerId quiet.attacks.attacker_mem
    have defending := six game.defenderId quiet.attacks.defender_mem
    exact quiet.finishes_of_four whole (deck_eq_nil_of_discard (by omega)) (by omega)
      (List.length_pos_iff.mp (by omega))
  | succ remaining hypothesis =>
    by_cases empty : game.deck = []
    · have attacking := six game.attackerId quiet.attacks.attacker_mem
      have defending := six game.defenderId quiet.attacks.defender_mem
      exact quiet.finishes_of_four whole empty (by omega) (List.length_pos_iff.mp (by omega))
    · obtain ⟨later, leads, stillQuiet, aside, stillSix⟩ := quiet.exists_six empty six
      have same : later.cardCount = game.cardCount := by
        rw [cardCount_eq_card, cardCount_eq_card, leads.cards]
      refine leads.finishes (hypothesis stillQuiet (leads.cards.trans whole) stillSix ?_)
      rw [same, aside]
      omega

/-- The covers on a table are among its cards. -/
theorem countP_le_length_tableCards (table : List TableEntry) :
    table.countP TableEntry.isBeaten ≤ (tableCards table).length := by
  induction table with
  | nil => exact Nat.le_refl _
  | cons entry rest hypothesis =>
    have split : tableCards (entry :: rest) = entry.cards ++ tableCards rest := rfl
    rw [split, List.length_append, List.countP_cons]
    have positive : 1 ≤ entry.cards.length := Nat.succ_le_succ (Nat.zero_le _)
    split <;> omega

/-- Between two players, the attacker defends when the attack has moved by one place. -/
theorem AttacksFrom.defenderId_next_of_two {game later : Game} {place : Nat}
    (attacks : game.AttacksFrom place) (moved : later.AttacksFrom (place + 1))
    (seats : later.seatIds = game.seatIds) (two : game.seatIds.length = 2) :
    later.defenderId = game.attackerId := by
  have around : (place + 1 + 1) % game.seatIds.length = place % game.seatIds.length := by
    rw [two]
    omega
  have defender := moved.defender
  rw [seats, around, attacks.attacker] at defender
  exact (Option.some.inj defender).symm

/-- What a game that a run from a deal reaches keeps, with the attack at a place. -/
structure InPlay (game : Game) (place : Nat) : Prop where
  started : game.started = true
  attacks : game.AttacksFrom place
  allowed : game.settings.turnTimeoutSeconds.isWithin longestTimeout = true
  whole : game.cards = (Card.pack : Multiset Card)
  stocked : game.Stocked

namespace InPlay

variable {game : Game} {place : Nat}

theorem leads_taken (inPlay : game.InPlay place) :
    game.Leads game.taken ∧ game.taken.Quiet (place + 2) := by
  have leads : game.Leads game.taken := by
    rw [← apply_takeAllCards inPlay.attacks inPlay.started (.ofUnixSeconds 0)]
    exact .command inPlay.attacks.defender_mem .takeAllCards (by decide +kernel)
  refine ⟨leads, resting_taken inPlay.started, inPlay.attacks.take, ?_⟩
  rw [settings_eq_of_terms leads.terms]
  exact inPlay.allowed

/-- How many cards a player has after the defender has taken up the table, while there were cards
in the deck. -/
theorem length_taken (inPlay : game.InPlay place) (left : game.deck ≠ []) {id : String}
    (seated : id ∈ game.seatIds) :
    (id ≠ game.attackerId → handSize ≤ (game.taken.handOf id).length) ∧
      (id = game.attackerId →
        min handSize ((game.handOf id).length + game.deck.length) ≤
          (game.taken.handOf id).length) := by
  have grows := (fillsUp_taken inPlay.attacks).grows id
  have beside := inPlay.attacks.attacker_ne_defender
  rw [handOf_takeTable inPlay.attacks.defender_mem] at grows
  constructor
  · intro other
    have enough := inPlay.stocked left id seated
    unfold laidBy at enough
    rw [if_neg other, Nat.zero_add] at enough
    by_cases defends : id = game.defenderId
    · have covers := countP_le_length_tableCards game.table
      rw [if_pos defends, List.length_append, ← defends] at grows
      rw [if_pos defends] at enough
      omega
    · rw [if_neg defends] at grows enough
      omega
  · rintro rfl
    have drawn := attacker_replenishAll (attacksFrom_takeTable inPlay.attacks)
    have attacker : (game.takeTable game.defenderId).attackerId = game.attackerId := rfl
    have deck : (game.takeTable game.defenderId).deck = game.deck := rfl
    rw [attacker, deck, handOf_takeTable inPlay.attacks.defender_mem, if_neg beside,
      ← handOf_resolveRound _ false] at drawn
    have same : game.taken.handOf game.attackerId =
        ((game.takeTable game.defenderId).resolveRound false).handOf game.attackerId :=
      handOf_congr (passOver_keeps players (fun _ _ _ => rfl) _ _) _
    rw [same]
    exact drawn

/-- Among three or more players, whoever attacks after the table has been taken up is not the
attacker of before. -/
theorem attackerId_taken_ne (inPlay : game.InPlay place) (three : 3 ≤ game.seatIds.length) :
    game.taken.attackerId ≠ game.attackerId := by
  intro same
  have here := inPlay.attacks.attacker
  have there := inPlay.attacks.take.attacker
  have seats := seatIds_eq_of_terms (terms_taken game)
  change game.taken.seatIds[(place + 2) % game.taken.seatIds.length]? =
    some game.taken.attackerId at there
  rw [seats, same, ← here] at there
  have places := (List.getElem?_inj (Nat.mod_lt _ (by omega)) inPlay.attacks.distinct).mp there
  have inside := Nat.mod_lt place (show 0 < game.seatIds.length by omega)
  rw [← Nat.mod_add_mod] at places
  rcases Nat.lt_or_ge (place % game.seatIds.length + 2) game.seatIds.length with within | past
  · rw [Nat.mod_eq_of_lt within] at places
    omega
  · rw [Nat.mod_eq_sub_mod past, Nat.mod_eq_of_lt (by omega)] at places
    omega

/-- Among three or more players the game can be finished while there are cards in the deck: whoever
attacks after the table has been taken up has six cards, and everybody has one. -/
theorem finishes_of_three (inPlay : game.InPlay place) (left : game.deck ≠ [])
    (three : 3 ≤ game.seatIds.length) (empty : game.taken.deck = []) : game.Finishes := by
  obtain ⟨leads, quiet⟩ := inPlay.leads_taken
  have seats := seatIds_eq_of_terms (terms_taken game)
  have some_ := List.length_pos_iff.mpr left
  have isSix : handSize = 6 := rfl
  have attacking := (inPlay.length_taken left (seats ▸ quiet.attacks.attacker_mem)).1
    (inPlay.attackerId_taken_ne three)
  have defending := inPlay.length_taken left (seats ▸ quiet.attacks.defender_mem)
  refine leads.finishes (quiet.finishes_of_four (leads.cards.trans inPlay.whole) empty
    (by omega) (List.length_pos_iff.mp ?_))
  by_cases attacker : game.taken.defenderId = game.attackerId
  · have drawn := defending.2 attacker
    omega
  · have six := defending.1 attacker
    omega

/-- Two players can finish the game if after the table has been taken up the attacker has two
cards: one is put aside, and the defender attacks next with four cards or more. -/
theorem finishes_of_two (inPlay : game.InPlay place) (left : game.deck ≠ [])
    (two : game.seatIds.length = 2) (empty : game.taken.deck = [])
    (helped : 2 ≤ (game.handOf game.attackerId).length + game.deck.length) : game.Finishes := by
  obtain ⟨leads, quiet⟩ := inPlay.leads_taken
  have seats := seatIds_eq_of_terms (terms_taken game)
  have isSix : handSize = 6 := rfl
  -- between two players the attack comes back to where it was
  have back : game.taken.Quiet place := by
    refine ⟨quiet.rests, quiet.attacks.around ?_, quiet.allowed⟩
    rw [seats, two, Nat.add_mod_right]
  obtain ⟨attacker, defender⟩ := inPlay.attacks.roles back.attacks seats
  have beside := inPlay.attacks.attacker_ne_defender
  have drawn := (inPlay.length_taken left inPlay.attacks.attacker_mem).2 rfl
  have attacking : 2 ≤ (game.taken.handOf game.attackerId).length := by omega
  have defending := (inPlay.length_taken left inPlay.attacks.defender_mem).1 beside.symm
  obtain ⟨card, held⟩ := List.exists_mem_of_length_pos
    (show 0 < (game.taken.handOf game.attackerId).length by omega)
  have opposed := List.length_pos_iff.mp
    (show 0 < (game.taken.handOf game.defenderId).length by omega)
  rw [← attacker] at held
  rw [← defender] at opposed
  obtain ⟨later, further, stillQuiet, fills, -, -⟩ := back.exists_putAside held opposed
  have all := leads.trans further
  have sameSeats := seatIds_eq_of_terms all.terms
  have nowAttacks := inPlay.attacks.attackerId_next stillQuiet.attacks sameSeats
  have nowDefends := inPlay.attacks.defenderId_next_of_two stillQuiet.attacks sameSeats two
  have hands := handOf_attacked held (.ofUnixSeconds 0)
  have four := fills.grows game.defenderId
  have one := fills.grows game.attackerId
  rw [hands, attacker, if_neg beside.symm] at four
  rw [hands, attacker, if_pos rfl, List.length_erase_of_mem (attacker ▸ held)] at one
  refine all.finishes (stillQuiet.finishes_of_four (all.cards.trans inPlay.whole)
    (fills.empty empty).1 ?_ (List.length_pos_iff.mp ?_))
  · rw [nowAttacks]
    omega
  · rw [nowDefends]
    omega

/-- **While there are cards in the deck the game can be finished**, but for the last card between
two players when the attacker has none. -/
theorem finishes_of_deck (inPlay : game.InPlay place) (left : game.deck ≠ [])
    (helped : 2 ≤ game.deck.length ∨ 3 ≤ game.players.length ∨
      game.handOf game.attackerId ≠ []) : game.Finishes := by
  by_cases empty : game.taken.deck = []
  · rcases Nat.lt_or_ge game.seatIds.length 3 with two | three
    · have several := inPlay.attacks.several
      refine inPlay.finishes_of_two left (by omega) empty ?_
      have some_ := List.length_pos_iff.mpr left
      rw [length_seatIds] at two
      rcases helped with many | three | held
      · omega
      · omega
      · have := List.length_pos_iff.mpr held
        omega
    · exact inPlay.finishes_of_three left three empty
  · obtain ⟨leads, quiet⟩ := inPlay.leads_taken
    refine leads.finishes (quiet.finishes_of_six (leads.cards.trans inPlay.whole)
      fun id seated => ?_)
    exact (fillsUp_taken inPlay.attacks).full empty id
      (seatIds_eq_of_terms (terms_taken game) ▸ seated)

end InPlay

/-! ## Games that a run reaches -/

theorem inPlay_of_deal {id : String} {entrants : List Entrant} {settings : Settings}
    {seed : UInt64} {dealt : Game} (isDealt : deal id entrants settings seed = .ok dealt)
    {steps : List Step} (started : (dealt.afterAll steps).started = true) :
    ∃ place, (dealt.afterAll steps).InPlay place := by
  obtain ⟨place, attacks⟩ := attacksFrom_of_deal isDealt
  obtain ⟨inOrder, trump, cards, attackerSeat, -, -, isArranged⟩ := deal_eq_ok isDealt
  have same : (dealt.afterAll steps).settings = settings := by
    rw [settings_eq_of_terms (terms_afterAll dealt steps), isArranged]
    rfl
  refine ⟨_, started, attacks.afterAll steps, ?_, ?_,
    stocked_afterAll attacks (stocked_of_deal isDealt) steps⟩
  · rw [same]
    exact (setupFault?_eq_none_iff.mp inOrder).2.2
  · rw [cards_afterAll, cards_of_deal isDealt]

/-! ## Closing a round -/

/-- Whichever way a round is closed, the game rests afterwards. -/
theorem resting_of_endsRound {game : Game} {step : Step} (closes : game.endsRound step = true) :
    (game.after step).Resting := by
  cases step with
  | handOut => cases closes
  | command userId action now => exact (timerMove_apply game userId action now).resting closes

/-- Only a step that closes the round ends the game. -/
theorem endsRound_of_endGame {game : Game} {step : Step} {result : GameResult}
    (ends : .endGame result ∈ game.emittedBy step) : game.endsRound step = true := by
  cases step with
  | handOut => exact absurd ends List.not_mem_nil
  | command userId action now =>
    obtain ⟨rfl, permitted, everyone⟩ := vote_of_endGame ends
    simp [endsRound, closesRound, (apply_endRound permitted everyone).1, everyone]

/-- What a closed round has to leave for the game to go on to its end: cards in the deck, or hands
that can be played on. -/
def Promising (game : Game) : Prop := game.deck ≠ [] ∨ game.IsPlayable

/-- The players can bring the round to a close that ends the game or leaves a promising one. -/
def ClosesWell (game : Game) : Prop :=
  ∃ (steps : List Step) (last : Step), (∀ step ∈ steps ++ [last], step.ByPlayerOf game) ∧
    countSteps endsRound game steps = 0 ∧ (game.afterAll steps).endsRound last = true ∧
      ((∃ result, .endGame result ∈ (game.afterAll steps).emittedBy last) ∨
        (game.afterAll (steps ++ [last])).Promising)

/-- A game at rest that can be finished is promising. -/
theorem Resting.promising_of_finishes {game : Game} {place : Nat} (rests : game.Resting)
    (attacks : game.AttacksFrom place) (finishes : game.Finishes) : game.Promising := by
  by_cases empty : game.deck = []
  · exact .inr (rests.isPlayable_of_finishes attacks empty finishes)
  · exact .inl empty

/-- Whoever finishes a game closes the round it is in, and well. -/
theorem closesWell_of_endGame {game : Game} {place : Nat} (attacks : game.AttacksFrom place)
    {steps : List Step} (byPlayers : ∀ step ∈ steps, step.ByPlayerOf game) {result : GameResult}
    (ends : .endGame result ∈ game.emitted steps) : game.ClosesWell := by
  induction steps generalizing game place with
  | nil => exact absurd ends List.not_mem_nil
  | cons step rest hypothesis =>
    obtain ⟨byPlayer, others⟩ := List.forall_mem_cons.mp byPlayers
    have stillPlayers : ∀ step_ ∈ rest, step_.ByPlayerOf (game.after step) := fun step_ member =>
      (byPlayerOf_congr (terms_after game step) step_).mpr (others step_ member)
    by_cases closes : game.endsRound step = true
    · refine ⟨[], step, by simpa using byPlayer, rfl, closes, ?_⟩
      rcases List.mem_append.mp ends with atOnce | afterwards
      · exact .inl ⟨result, atOnce⟩
      · exact .inr ((resting_of_endsRound closes).promising_of_finishes (attacks.after step)
          ⟨rest, stillPlayers, result, afterwards⟩)
    · have later := (List.mem_append.mp ends).resolve_left fun atOnce =>
        closes (endsRound_of_endGame atOnce)
      obtain ⟨steps, last, played, goesOn, closing, well⟩ :=
        hypothesis (attacks.after step) stillPlayers later
      refine ⟨step :: steps, last, ?_, ?_, closing, well⟩
      · refine List.forall_mem_cons.mpr ⟨byPlayer, fun step_ member => ?_⟩
        exact (byPlayerOf_congr (terms_after game step) step_).mp (played step_ member)
      · rw [countSteps, goesOn, Bool.eq_false_iff.mpr closes]
        rfl

/-- A promising game at rest can be finished. -/
theorem InPlay.finishes_of_promising {game : Game} {place : Nat} (inPlay : game.InPlay place)
    (rests : game.Resting) (promising : game.Promising) : game.Finishes := by
  have quiet : game.Quiet place := ⟨rests, inPlay.attacks, inPlay.allowed⟩
  by_cases empty : game.deck = []
  · exact quiet.finishes_of_playable (promising.resolve_left (absurd empty)) empty ⟨rfl, rfl⟩ rfl rfl
  · refine quiet.finishes_of_six inPlay.whole fun id seated => ?_
    have enough := inPlay.stocked empty id seated
    simpa [laidBy, rests.table] using enough

/-! ## Hopeful games -/

/-- The ways in which a started game can still be finished: there are two cards in the deck; there
is one, and there are three players or the attacker has a card; or the round can be brought to a
close that ends the game or leaves a promising one. -/
inductive Hopeful (game : Game) : Prop where
  | deck (many : 2 ≤ game.deck.length)
  | lastCard (one : game.deck.length = 1)
      (helped : 3 ≤ game.players.length ∨ game.handOf game.attackerId ≠ [])
  | round (well : game.ClosesWell)

/-- **A started game that a run from a deal reaches can be finished by its players exactly if it is
hopeful.**  Between two rounds that is to say that it is promising. -/
theorem finishes_iff_hopeful {id : String} {entrants : List Entrant} {settings : Settings}
    {seed : UInt64} {dealt : Game} (isDealt : deal id entrants settings seed = .ok dealt)
    (steps : List Step) (started : (dealt.afterAll steps).started = true) :
    ((dealt.afterAll steps).Finishes ↔ (dealt.afterAll steps).Hopeful) ∧
      ((dealt.afterAll steps).Resting →
        ((dealt.afterAll steps).Finishes ↔ (dealt.afterAll steps).Promising)) := by
  obtain ⟨place, inPlay⟩ := inPlay_of_deal isDealt started
  refine ⟨⟨?_, fun hopeful => ?_⟩, fun rests =>
    ⟨rests.promising_of_finishes inPlay.attacks, inPlay.finishes_of_promising rests⟩⟩
  · rintro ⟨further, byPlayers, result, ends⟩
    exact .round (closesWell_of_endGame inPlay.attacks byPlayers ends)
  · cases hopeful with
    | deck many => exact inPlay.finishes_of_deck (List.length_pos_iff.mp (by omega)) (.inl many)
    | lastCard one helped =>
      exact inPlay.finishes_of_deck (List.length_pos_iff.mp (by omega)) (.inr helped)
    | round well =>
      obtain ⟨played, last, byPlayers, -, closing, ⟨result, ends⟩ | promising⟩ := well
      · refine ⟨played ++ [last], byPlayers, result, ?_⟩
        rw [emitted_append]
        exact List.mem_append_right _ (List.mem_append_left _ ends)
      · have leads : (dealt.afterAll steps).Leads _ := ⟨played ++ [last], byPlayers, rfl⟩
        have rests : ((dealt.afterAll steps).afterAll (played ++ [last])).Resting := by
          rw [afterAll_append]
          exact resting_of_endsRound closing
        refine leads.finishes ?_
        rw [← afterAll_append] at rests promising ⊢
        obtain ⟨there, stillInPlay⟩ := inPlay_of_deal isDealt rests.started
        exact stillInPlay.finishes_of_promising rests promising

/-- In a duel, `b` has handed over every card but the last one. -/
def oneCardLeft : List Step := handingOver ((duel.handOf "b" ++ duel.deck.reverse).dropLast)

/-- Two players that have got ready can finish the game.  They can also finish it when the deck is
used up and one of them has a single card, because the other can beat it; and still so when it has
been laid. -/
theorem finishes_iff_hopeful_in_a_duel :
    deal "g" [⟨"a", ""⟩, ⟨"b", ""⟩] ⟨Double.ofInt 30⟩ 7 = .ok duel ∧
      (duel.afterAll [.command "a" .ready (.ofUnixSeconds 0),
        .command "b" .ready (.ofUnixSeconds 0)]).Finishes ∧
      (duel.afterAll oneCardLeft).deck = [] ∧
      (duel.afterAll oneCardLeft).handOf "b" = [⟨.hearts, .eight⟩] ∧
      (duel.afterAll oneCardLeft).Finishes ∧
      (duel.afterAll (oneCardLeft ++
        [.command "b" (.attack ⟨.hearts, .eight⟩) (.ofUnixSeconds 0)])).Finishes := by
  refine ⟨deal_duel, (finishes_iff_hopeful deal_duel _ (by decide +kernel)).1.mpr
    (.deck (by decide +kernel)), by decide +kernel, by decide +kernel,
    ((finishes_iff_hopeful deal_duel _ (by decide +kernel)).2 ?_).mpr (.inr (.pair ?_)),
    (finishes_iff_hopeful deal_duel _ (by decide +kernel)).1.mpr (.round ?_)⟩
  · exact ⟨by decide +kernel, by decide +kernel, fun kind => by cases kind <;> decide +kernel⟩
  · exact ⟨by decide +kernel, ⟨.hearts, .eight⟩, by decide +kernel, ⟨.hearts, .nine⟩,
      by decide +kernel, by decide +kernel⟩
  · exact ⟨[.command "a" (.defend ⟨.hearts, .eight⟩ ⟨.hearts, .nine⟩) (.ofUnixSeconds 0)],
      .command "b" .endAttack (.ofUnixSeconds 0), by decide +kernel, by decide +kernel,
      by decide +kernel, .inl ⟨.win, by decide +kernel⟩⟩

end Game

end Durak
