import Durak.Proofs.Plays

/-!
# Ending a game

A round that is voted closed with an empty deck ends the game when the attacker or the defender has
no cards left.  So the players can end a game if they get, with an empty deck, to an attacker with
one card and a defender who can beat it: the card is laid, beaten, and everybody votes.

Any other cards of the attacker can be handed to the defender first.  What is needed is therefore
only a pair of neighbours, both with cards, and a card of the first that some card of the two beats:
`PromisingPair`.  Cards that do not beat each other have one rank and are no trumps, so four
different cards in a hand are always enough (`exists_beaten`).  And hands that can be played on to
such a pair are enough as well, because the players can play every round that this takes
(`Quiet.finishes_of_playable`).
-/

set_option autoImplicit false

namespace Durak

/-! ## Cards that beat each other -/

theorem beats_or_beats (trump : Suit) {first second : Card} (different : first ≠ second)
    (suits : first.suit = second.suit) :
    first.beats trump second = true ∨ second.beats trump first = true := by
  have ranks : first.rank.value ≠ second.rank.value := fun same =>
    different (by
      cases first
      cases second
      simp only [Card.mk.injEq]
      exact ⟨suits, Rank.value_injective same⟩)
  unfold Card.beats
  by_cases isTrump : second.suit = trump
  · simp only [suits, isTrump, ne_eq, not_true_eq_false, and_false, if_false, decide_eq_true_eq]
    omega
  · simp only [suits, isTrump, false_and, if_false, decide_eq_true_eq]
    omega

/-- Among four different cards one beats another. -/
theorem exists_beaten (trump : Suit) {hand : List Card} (different : hand.Nodup)
    (many : 4 ≤ hand.length) :
    ∃ card ∈ hand, ∃ cover ∈ hand, cover.beats trump card = true := by
  by_cases twice : (hand.map (·.suit)).Nodup
  · -- every suit occurs, so a trump meets a card that is none
    have every : (hand.map (·.suit)).Perm Suit.all :=
      (List.subperm_of_subset twice fun suit _ => Suit.mem_all suit).perm_of_length_le (by
        rw [List.length_map]
        exact many)
    obtain ⟨cover, inHand, isTrump⟩ := List.mem_map.mp (every.mem_iff.mpr (Suit.mem_all trump))
    obtain ⟨plain, notTrump⟩ : ∃ plain : Suit, plain ≠ trump := by
      cases trump
      · exact ⟨.spades, by decide⟩
      all_goals exact ⟨.clubs, by decide⟩
    obtain ⟨card, alsoInHand, isPlain⟩ := List.mem_map.mp (every.mem_iff.mpr (Suit.mem_all plain))
    refine ⟨card, alsoInHand, cover, inHand, ?_⟩
    unfold Card.beats
    rw [if_pos ⟨isTrump, isPlain ▸ notTrump⟩]
  · -- two cards have one suit, and the higher beats the lower
    obtain ⟨first, inHand, second, alsoInHand, suits, apart⟩ :
        ∃ first ∈ hand, ∃ second ∈ hand, first.suit = second.suit ∧ first ≠ second := by
      by_contra none_
      push Not at none_
      exact twice (different.map_on fun first inHand second alsoInHand suits =>
        none_ first inHand second alsoInHand suits)
    rcases beats_or_beats trump apart suits with beaten | beaten
    · exact ⟨second, alsoInHand, first, inHand, beaten⟩
    · exact ⟨first, inHand, second, alsoInHand, beaten⟩

namespace Game

/-- No card is twice in a hand of a game that holds the pack. -/
theorem nodup_handOf {game : Game} (whole : game.cards = (Card.pack : Multiset Card))
    (id : String) : (game.handOf id).Nodup := by
  have hands := (List.nodup_flatMap.mp
    (nodup_of_whole whole).of_append_left.of_append_left.of_append_right).1
  cases seat : game.player? id with
  | none => simp [handOf, seat]
  | some player =>
    rw [handOf_of_player? seat]
    exact hands player (List.mem_of_find?_eq_some seat)

/-! ## Voting a round closed -/

theorem everyoneEnds_iff {game : Game} :
    game.everyoneEnds = true ↔
      ∀ id ∈ game.seatIds, id ≠ game.defenderId → id ∈ game.endVotes := by
  unfold everyoneEnds seatIds
  simp only [List.all_eq_true, List.mem_filter, bne_iff_ne, Voters.contains_iff, and_imp,
    List.forall_mem_map]

theorem replenish_voteEnd (game : Game) (userId id : String) :
    (game.voteEnd userId).replenish id =
      { game.replenish id with endVotes := game.endVotes.insert userId } := by
  have seat : (game.voteEnd userId).player? id = game.player? id := rfl
  unfold replenish
  rw [seat]
  split <;> rfl

theorem foldl_replenish_voteEnd (ids : List String) (game : Game) (userId : String) :
    ids.foldl replenish (game.voteEnd userId) =
      { ids.foldl replenish game with endVotes := game.endVotes.insert userId } := by
  induction ids generalizing game with
  | nil => rfl
  | cons id ids hypothesis =>
    have votes : (game.replenish id).endVotes = game.endVotes :=
      replenish_keeps Game.endVotes (fun _ _ _ => rfl) game id
    have voted : (game.voteEnd userId).replenish id = (game.replenish id).voteEnd userId := by
      rw [replenish_voteEnd, voteEnd, votes]
    rw [List.foldl_cons, List.foldl_cons, voted, hypothesis, votes]

/-- A closed round forgets who voted. -/
theorem resolveRound_voteEnd (game : Game) (userId : String) :
    (game.voteEnd userId).resolveRound true = game.resolveRound true := by
  have order : (game.voteEnd userId).drawingOrder = game.drawingOrder := rfl
  have forgets : ∀ (other : Game) (votes : Voters),
      { other with endVotes := votes }.switchRoles.clearTable = other.switchRoles.clearTable := by
    intro other votes
    have next : { other with endVotes := votes }.nextSeat? other.defenderId =
        other.nextSeat? other.defenderId := rfl
    unfold switchRoles
    simp only [next]
    cases other.nextSeat? other.defenderId <;> rfl
  simp only [resolveRound_eq, filled, if_true, replenishAll, order, foldl_replenish_voteEnd,
    forgets]

/-- Who has voted plays no part in how the round is closed. -/
theorem endRound_voteEnd (game : Game) (userId : String) :
    (game.voteEnd userId).endRound = game.endRound := by
  have same := resolveRound_voteEnd game userId
  unfold endRound
  rw [same]
  rfl

/-- A vote that everybody else has joined closes the round. -/
theorem apply_endRound {game : Game} {userId : String} {now : Instant}
    (permitted : game.EndPermitted userId now)
    (everyone : (game.voteEnd userId).everyoneEnds = true) :
    (game.apply userId .endAttack now).violation = none ∧
      (game.apply userId .endAttack now).game = game.endRound.game := by
  have carriedOut : game.endAttack userId now = game.endRound := by
    rw [endAttack_of_permitted (endAttackViolation?_eq_none_iff.mpr permitted), if_pos everyone,
      endRound_voteEnd]
  show (game.endAttack userId now).violation = none ∧
    (game.endAttack userId now).game = game.endRound.game
  rw [carriedOut]
  exact ⟨endRound_violation game, rfl⟩

/-- Closing a round that everyone wants to end tells whether that ends the game. -/
theorem events_endRound (game : Game) :
    game.endRound.game.events = game.events ++ .endAttack ::
      (((game.resolveRound true).evaluateEnd? game.attackerId game.defenderId).map
        Event.endGame).toList := by
  unfold endRound
  simp only
  split
  · rename_i result decides
    show (game.resolveRound true).events ++ [.endGame result] = _
    rw [decides, events_resolveRound, List.append_assoc]
    rfl
  · rename_i goesOn
    rw [goesOn]
    exact events_resolveRound game true

/-- What a vote tells that everybody else has joined. -/
theorem occurred_endRound {game : Game} {userId : String} {now : Instant}
    (permitted : game.EndPermitted userId now)
    (everyone : (game.voteEnd userId).everyoneEnds = true) :
    game.occurred userId .endAttack now = .endAttack ::
      (((game.resolveRound true).evaluateEnd? game.attackerId game.defenderId).map
        Event.endGame).toList := by
  refine occurred_of_append ?_
  rw [(apply_endRound permitted everyone).2, events_endRound]

/-- A vote that others still have to join is recorded. -/
theorem apply_vote {game : Game} {userId : String} {now : Instant}
    (permitted : game.EndPermitted userId now)
    (waiting : (game.voteEnd userId).everyoneEnds = false) :
    (game.apply userId .endAttack now).violation = none ∧
      (game.apply userId .endAttack now).game = game.voteEnd userId := by
  show (game.endAttack userId now).violation = none ∧
    (game.endAttack userId now).game = game.voteEnd userId
  rw [endAttack_of_permitted (endAttackViolation?_eq_none_iff.mpr permitted), waiting]
  exact ⟨rfl, rfl⟩

/-- A round with every card beaten, that ends the game once it is voted closed. -/
structure Decided (game : Game) (now : Instant) : Prop where
  started : game.started = true
  laid : game.table ≠ []
  beaten : ∀ entry ∈ game.table, entry.isBeaten = true
  inTime : game.timerExpired .attack now = false
  decides : ((game.resolveRound true).evaluateEnd? game.attackerId game.defenderId).isSome = true

namespace Decided

variable {game : Game} {now : Instant}

theorem permitted (decided : game.Decided now) {userId : String}
    (other : userId ≠ game.defenderId) : game.EndPermitted userId now :=
  ⟨decided.laid, decided.started, .inr other, decided.inTime, decided.beaten⟩

theorem voteEnd (decided : game.Decided now) (userId : String) :
    (game.voteEnd userId).Decided now := by
  refine ⟨decided.started, decided.laid, decided.beaten, decided.inTime, ?_⟩
  rw [resolveRound_voteEnd]
  exact decided.decides

/-- Those who have not voted yet vote one after another, until somebody completes the vote. -/
theorem finishes_by (shown : now.InCalendar) {pending : List String} (some_ : pending ≠ [])
    {place : Nat} (attacks : game.AttacksFrom place) (decided : game.Decided now)
    (voters : ∀ id ∈ pending, id ∈ game.seatIds ∧ id ≠ game.defenderId)
    (others : ∀ id ∈ game.seatIds, id ≠ game.defenderId → id ∈ game.endVotes ∨ id ∈ pending) :
    game.Finishes := by
  induction pending generalizing game with
  | nil => exact absurd rfl some_
  | cons voter pending hypothesis =>
    obtain ⟨⟨seated, attacker⟩, rest⟩ := List.forall_mem_cons.mp voters
    have permitted := decided.permitted attacker
    have accounted : ∀ id ∈ game.seatIds, id ≠ game.defenderId →
        id ∈ (game.voteEnd voter).endVotes ∨ id ∈ pending := by
      intro id isSeat notDefender
      rcases others id isSeat notDefender with voted | waits
      · exact .inl (Voters.mem_insert.mpr (.inr voted))
      · rcases List.mem_cons.mp waits with rfl | waits
        · exact .inl (Voters.mem_insert.mpr (.inl rfl))
        · exact .inr waits
    by_cases everyone : (game.voteEnd voter).everyoneEnds = true
    · obtain ⟨result, decides⟩ := Option.isSome_iff_exists.mp decided.decides
      refine ⟨[.command voter .endAttack now], fun step member => ?_, result, ?_⟩
      · obtain rfl := List.mem_singleton.mp member
        exact ⟨seated, shown⟩
      · refine List.mem_append_left _ ?_
        show _ ∈ game.occurred voter .endAttack now
        rw [occurred_endRound permitted everyone, decides]
        exact List.mem_cons_of_mem _ (List.mem_singleton_self _)
    · have waiting := Bool.eq_false_iff.mpr everyone
      have leads : game.Leads (game.voteEnd voter) := by
        rw [← (apply_vote permitted waiting).2]
        exact .command seated .endAttack shown
      refine leads.finishes (hypothesis ?_ (attacks.congr rfl rfl rfl) (decided.voteEnd voter) rest
        accounted)
      rintro rfl
      refine everyone (everyoneEnds_iff.mpr fun id isSeat notDefender => ?_)
      exact (accounted id isSeat notDefender).resolve_right List.not_mem_nil

/-- **Votes end a decided round, and with it the game.** -/
theorem finishes {place : Nat} (attacks : game.AttacksFrom place) (shown : now.InCalendar)
    (decided : game.Decided now) : game.Finishes := by
  have isVoter : ∀ id, id ∈ game.seatIds.filter (fun id => id != game.defenderId) ↔
      id ∈ game.seatIds ∧ id ≠ game.defenderId := by
    intro id
    rw [List.mem_filter, bne_iff_ne]
  refine finishes_by shown (List.ne_nil_of_mem ((isVoter game.attackerId).mpr
    ⟨attacks.attacker_mem, attacks.attacker_ne_defender⟩)) attacks decided
    (fun id member => (isVoter id).mp member)
    fun id seated notDefender => .inr ((isVoter id).mpr ⟨seated, notDefender⟩)

end Decided

/-! ## The last card -/

/-- Once the deck is empty, a round in which a player has run out of cards ends the game. -/
theorem evaluateEnd?_isSome {game : Game} {attackerId defenderId : String}
    (empty : game.deck = []) (seated : attackerId ∈ game.seatIds)
    (none_ : game.handOf attackerId = []) :
    (game.evaluateEnd? attackerId defenderId).isSome = true := by
  have out := hasNoCards_eq_true.mpr ⟨seated, none_⟩
  unfold evaluateEnd?
  rw [empty, out]
  cases game.hasNoCards defenderId <;> rfl

/-- The only card on a table is covered. -/
theorem layCover_single {game : Game} {card : Card} (table : game.table = [TableEntry.mk card none])
    (userId : String) (cover : Card) (now : Instant) :
    game.layCover userId card cover now =
      { game.pushEvent (.defend card cover userId) with
        table := [TableEntry.mk card (some cover)]
        attackTimer := .startedNow now } := by
  have covered : game.cover card cover =
      { game with table := [TableEntry.mk card (some cover)] } := by
    rw [Game.cover, table]
    simp [updateFirst, Check.isOpenTarget, TableEntry.isBeaten]
  unfold layCover
  rw [covered]
  rfl

/-- Once a card of the attacker's has been beaten, the clock may be set back before the time at
which it was, and everybody votes. -/
theorem finishes_of_beaten {game : Game} {place : Nat} (attacks : game.AttacksFrom place)
    (started : game.started = true) (empty : game.deck = [])
    (none_ : game.handOf game.attackerId = [])
    (allowed : game.settings.turnTimeoutSeconds.isWithin longestTimeout = true) {card cover : Card}
    (table : game.table = [TableEntry.mk card (some cover)])
    (timer : game.attackTimer = .startedNow (.ofUnixSeconds (-1))) : game.Finishes := by
  have shown : (Instant.ofUnixSeconds (-2)).InCalendar := by decide +kernel
  have inTime : game.timerExpired .attack (.ofUnixSeconds (-2)) = false := by
    show game.attackTimer.expired _ _ = false
    rw [timer]
    exact Timer.notExpired_before allowed (by decide +kernel)
  obtain ⟨stillEmpty, same⟩ := (fillsUp_resolveRound attacks true).empty empty
  have seats := seatIds_eq_of_terms (terms_resolveRound game true)
  refine Decided.finishes attacks shown ⟨started, ?_, ?_, inTime,
    evaluateEnd?_isSome stillEmpty (seats ▸ attacks.attacker_mem) ((same _).trans none_)⟩
  · rw [table]
    exact List.cons_ne_nil _ _
  · rw [table]
    simp [TableEntry.isBeaten]

/-- The defender may beat a card before the time at which it was laid. -/
theorem Quiet.defencePermitted {game : Game} {place : Nat} (quiet : game.Quiet place)
    {card cover : Card}
    (table : (game.attacked card (.ofUnixSeconds 0)).table = [TableEntry.mk card none])
    (held : cover ∈ (game.attacked card (.ofUnixSeconds 0)).handOf game.defenderId)
    (beats : cover.beats game.trump card = true) :
    (game.attacked card (.ofUnixSeconds 0)).DefencePermitted game.defenderId card cover
      (.ofUnixSeconds (-1)) := by
  have terms := terms_attacked game card (.ofUnixSeconds 0)
  refine ⟨quiet.rests.started, ?_, quiet.attacks.attacker_ne_defender.symm, rfl, mem_handOf.mp held,
    ⟨TableEntry.mk card none, ?_, ?_⟩, ?_⟩
  · show Timer.expired (.startedNow (.ofUnixSeconds 0)) _ _ = false
    rw [settings_eq_of_terms terms]
    exact Timer.notExpired_before quiet.allowed (by decide +kernel)
  · rw [table]
    exact List.mem_singleton_self _
  · simp [Check.isOpenTarget, TableEntry.isBeaten]
  · rw [trump_eq_of_terms terms]
    exact beats

/-- **An attacker lays the last card, the defender beats it, and everybody votes.**  The clock goes
backwards, so that no timer can have run out, however short the timeout. -/
theorem Quiet.finishes_of_last {game : Game} {place : Nat} (quiet : game.Quiet place)
    (empty : game.deck = []) {card cover : Card} (last : game.handOf game.attackerId = [card])
    (held : cover ∈ game.handOf game.defenderId) (beats : cover.beats game.trump card = true) :
    game.Finishes := by
  have inHand : card ∈ game.handOf game.attackerId := by
    rw [last]
    exact List.mem_singleton_self card
  have noon : (Instant.ofUnixSeconds 0).InCalendar := by decide +kernel
  have before : (Instant.ofUnixSeconds (-1)).InCalendar := by decide +kernel
  obtain ⟨leads, table⟩ := quiet.leads_attacked inHand (List.ne_nil_of_mem held) noon
  have attacks := attacksFrom_attacked quiet.attacks card (.ofUnixSeconds 0)
  have beside := quiet.attacks.attacker_ne_defender
  have hands := handOf_attacked inHand (.ofUnixSeconds 0)
  have settings : (game.attacked card (.ofUnixSeconds 0)).settings = game.settings :=
    settings_eq_of_terms (terms_attacked game card (.ofUnixSeconds 0))
  have allowed := quiet.allowed
  rw [← settings] at allowed
  have started : (game.attacked card (.ofUnixSeconds 0)).started = true := quiet.rests.started
  have left : (game.attacked card (.ofUnixSeconds 0)).deck = [] := empty
  have stillHeld : cover ∈ (game.attacked card (.ofUnixSeconds 0)).handOf game.defenderId := by
    rw [hands, if_neg beside.symm]
    exact held
  have permitted := quiet.defencePermitted table stillHeld beats
  have attacker : (game.attacked card (.ofUnixSeconds 0)).attackerId = game.attackerId := rfl
  have defender : (game.attacked card (.ofUnixSeconds 0)).defenderId = game.defenderId := rfl
  generalize game.attacked card (.ofUnixSeconds 0) = laid at *
  rw [← defender] at stillHeld permitted
  have covers : laid.Leads
      ((laid.withoutCard laid.defenderId cover).layCover laid.defenderId card cover
        (.ofUnixSeconds (-1))) := by
    rw [← apply_defend permitted]
    exact .command attacks.defender_mem (.defend card cover) before
  have none_ : (laid.withoutCard laid.defenderId cover).handOf laid.attackerId = [] := by
    rw [handOf_withoutCard stillHeld, attacker, defender, if_neg beside, hands, if_pos rfl, last]
    exact List.erase_cons_head card []
  have single : (laid.withoutCard laid.defenderId cover).table = [TableEntry.mk card none] := table
  rw [layCover_single single] at covers
  have stillAttacks := attacks.withoutCard laid.defenderId cover
  exact leads.finishes (covers.finishes (finishes_of_beaten (stillAttacks.congr rfl rfl rfl) started
    left none_ allowed rfl rfl))

/-! ## Handing over the other cards -/

/-- **From a promising pair of hands a game can be finished.**  The attacker hands over one card
after another, until the card that can be beaten is the last. -/
theorem Quiet.finishes_of_pair {game : Game} {place : Nat} (quiet : game.Quiet place)
    (empty : game.deck = [])
    (promising : PromisingPair game.trump (game.handOf game.attackerId)
      (game.handOf game.defenderId)) : game.Finishes := by
  generalize size : (game.handOf game.attackerId).length = cards
  induction cards generalizing game with
  | zero =>
    obtain ⟨-, card, held, -⟩ := promising
    rw [List.length_eq_zero_iff.mp size] at held
    exact absurd held List.not_mem_nil
  | succ cards hypothesis =>
    obtain ⟨opposed, card, held, cover, among, beats⟩ := promising
    have different : cover ≠ card := by
      rintro rfl
      exact Bool.eq_false_iff.mp (Card.not_beats_of_beats beats) beats
    have whole := List.perm_cons_erase held
    cases others : (game.handOf game.attackerId).erase card with
    | nil =>
      rw [others] at whole
      have last := List.perm_singleton.mp whole
      rw [last] at among
      have inOther : cover ∈ game.handOf game.defenderId :=
        (List.mem_cons.mp among).resolve_left different
      exact quiet.finishes_of_last empty last inOther beats
    | cons other rest =>
      have surplus : other ∈ (game.handOf game.attackerId).erase card := by
        rw [others]
        exact List.mem_cons_self
      have given := List.mem_of_mem_erase surplus
      obtain ⟨later, leads, stillQuiet, stillEmpty, hands⟩ :=
        quiet.exists_handedOver empty given opposed
      have beside := quiet.attacks.attacker_ne_defender
      obtain ⟨attacker, defender⟩ := quiet.attacks.roles stillQuiet.attacks
        (seatIds_eq_of_terms leads.terms)
      have attacking : later.handOf later.attackerId =
          (game.handOf game.attackerId).erase other := by
        rw [hands, attacker, if_neg beside, if_pos rfl]
      have defending : later.handOf later.defenderId =
          game.handOf game.defenderId ++ [other] := by
        rw [hands, defender, if_pos rfl]
      have kept : ∀ kept ∈ game.handOf game.attackerId, kept = other ∨
          kept ∈ (game.handOf game.attackerId).erase other := fun kept inHand =>
        (em (kept = other)).imp_right fun apart => (List.mem_erase_of_ne apart).mpr inHand
      refine leads.finishes (hypothesis stillQuiet stillEmpty ?_ ?_)
      · rw [attacking, defending, trump_eq_of_terms leads.terms]
        refine ⟨by simp, card, ?_, cover, ?_, beats⟩
        · rcases kept card held with rfl | stays
          · exact surplus
          · exact stays
        · rcases List.mem_append.mp among with mine | theirs
          · rcases kept cover mine with rfl | stays
            · simp
            · simp [stays]
          · simp [theirs]
      · rw [attacking, List.length_erase_of_mem given, size]
        rfl

/-! ## Playing on -/

/-- Whatever the players do, who sits where stays, and so does the trump suit. -/
theorem Leads.table {game later : Game} (leads : game.Leads later) :
    later.trump = game.trump ∧ later.seatAfter = game.seatAfter :=
  ⟨trump_eq_of_terms leads.terms, seatAfter_congr (seatIds_eq_of_terms leads.terms)⟩

/-- **From playable hands a quiet game can be finished.**  Each kind of round that the hands need is
one that the players can play, whatever the timers do. -/
theorem Quiet.finishes_of_playable {trump : Suit} {next : String → String} {hands : Hands}
    {attacker : String} (playable : Hands.Playable trump next hands attacker) {game : Game}
    {place : Nat} (quiet : game.Quiet place) (empty : game.deck = [])
    (table : game.trump = trump ∧ game.seatAfter = next) (areHands : game.handOf = hands)
    (attacks : game.attackerId = attacker) : game.Finishes := by
  induction playable generalizing game place with
  | pair promising =>
    obtain ⟨rfl, rfl⟩ := table
    subst areHands attacks
    rw [quiet.attacks.seatAfter_attacker] at promising
    exact quiet.finishes_of_pair empty promising
  | passOver _ hypothesis =>
    obtain ⟨rfl, rfl⟩ := table
    subst areHands attacks
    obtain ⟨later, leads, stillQuiet, stillEmpty, same⟩ := quiet.exists_passed empty
    have moved :=
      quiet.attacks.attackerId_passed stillQuiet.attacks (seatIds_eq_of_terms leads.terms)
    rw [← quiet.attacks.seatAfter_attacker] at moved
    exact leads.finishes (hypothesis stillQuiet stillEmpty leads.table (funext same) moved)
  | handOver held opposed _ hypothesis =>
    obtain ⟨rfl, rfl⟩ := table
    subst areHands attacks
    rw [quiet.attacks.seatAfter_attacker] at opposed hypothesis
    obtain ⟨later, leads, stillQuiet, stillEmpty, same⟩ :=
      quiet.exists_handedOver empty held opposed
    have roles := quiet.attacks.roles stillQuiet.attacks (seatIds_eq_of_terms leads.terms)
    refine leads.finishes (hypothesis stillQuiet stillEmpty leads.table (funext fun id => ?_) roles.1)
    rw [same, Hands.handedOver, Hands.withCards, Hands.givenUp]
    split
    · rename_i defends
      rw [if_neg (defends ▸ quiet.attacks.attacker_ne_defender.symm)]
    · rfl
  | putAside held opposed _ hypothesis =>
    obtain ⟨rfl, rfl⟩ := table
    subst areHands attacks
    rw [quiet.attacks.seatAfter_attacker] at opposed hypothesis
    obtain ⟨later, leads, stillQuiet, fills, -, -⟩ := quiet.exists_putAside held opposed
    obtain ⟨stillEmpty, same⟩ := fills.empty empty
    have moved :=
      quiet.attacks.attackerId_next stillQuiet.attacks (seatIds_eq_of_terms leads.terms)
    refine leads.finishes (hypothesis stillQuiet stillEmpty leads.table (funext fun id => ?_) moved)
    rw [same, handOf_attacked held, Hands.givenUp]
    split
    · rename_i attacks
      rw [attacks]
    · rfl

/-- Four different cards against any are promising. -/
theorem promisingPair_of_four (trump : Suit) {attacking defending : List Card}
    (different : attacking.Nodup) (many : 4 ≤ attacking.length) (opposed : defending ≠ []) :
    PromisingPair trump attacking defending := by
  obtain ⟨card, inHand, cover, alsoInHand, beats⟩ := exists_beaten trump different many
  exact ⟨opposed, card, inHand, cover, List.mem_append_left _ alsoInHand, beats⟩

theorem Quiet.finishes_of_four {game : Game} {place : Nat} (quiet : game.Quiet place)
    (whole : game.cards = (Card.pack : Multiset Card)) (empty : game.deck = [])
    (many : 4 ≤ (game.handOf game.attackerId).length)
    (opposed : game.handOf game.defenderId ≠ []) : game.Finishes :=
  quiet.finishes_of_pair empty
    (promisingPair_of_four game.trump (nodup_handOf whole game.attackerId) many opposed)

end Game

end Durak
