import Durak.Proofs.Voting

/-!
# Commands that come twice

A command that is delivered a second time, in the same user's name and at the same instant, does
nothing more.  Nothing recognises it as a repetition: what stops it is in the rules.  A card that
has been played is not in the hand any more; a round that has been closed has a clear table, stopped
timers and other roles; a vote that has been cast is in the set.

Between two players the defender who has taken up the cards defends again, and taking up a clear
table is permitted.  But the hands have just been filled up, so nobody draws (`Replete`), and the
attack passes over the same seat again.

All this is about the substance of a game.  What tells of the past does change: another event may be
announced, and a hand that is filled up with nothing forgets what it drew last.
-/

set_option autoImplicit false

namespace Durak

/-- A player without the marks of the last draw. -/
def Player.unmarked (player : Player) : Player := { player with lastDrawn := [] }

/-- Adding a member again changes nothing. -/
theorem Voters.insert_of_mem {voters : Voters} {id : String} (member : id ∈ voters) :
    voters.insert id = voters := by
  refine Voters.ext_mem fun other => ?_
  rw [Voters.mem_insert, or_iff_right_iff_imp]
  rintro rfl
  exact member

namespace Game

/-- The substance of a game: everything but the events and the marks of the last draw. -/
def substance (game : Game) : Game :=
  { game with players := game.players.map Player.unmarked, events := [] }

variable {game : Game}

/-! ## Hands that are full -/

/-- Nobody draws any more: the deck is empty, or every hand has six cards. -/
def Replete (game : Game) : Prop :=
  game.deck = [] ∨ ∀ id ∈ game.seatIds, handSize ≤ (game.handOf id).length

theorem seatIds_substance (game : Game) : game.substance.seatIds = game.seatIds := by
  simp only [seatIds, substance, List.map_map]
  rfl

theorem handOf_substance (game : Game) (id : String) :
    game.substance.handOf id = game.handOf id := by
  have found : game.substance.player? id = (game.player? id).map Player.unmarked :=
    List.find?_map
  rw [handOf, handOf, found]
  cases game.player? id <;> rfl

theorem Replete.congr {other : Game} (replete : game.Replete)
    (same : other.substance = game.substance) : other.Replete := by
  have deck : other.deck = game.deck := congrArg (·.deck) same
  have seats : other.seatIds = game.seatIds := by
    rw [← seatIds_substance, same, seatIds_substance]
  have hands : ∀ id, other.handOf id = game.handOf id := fun id => by
    rw [← handOf_substance, same, handOf_substance]
  unfold Replete
  rw [deck, seats]
  simp only [hands]
  exact replete

/-- A full hand, or one that finds the deck empty, stays as it is. -/
theorem unmarked_replenished {player : Player} {deck : List Card}
    (nothing : deck = [] ∨ handSize ≤ player.hand.length) :
    (player.replenished deck).1.unmarked = player.unmarked ∧
      (player.replenished deck).2 = deck := by
  unfold Player.replenished
  by_cases full : handSize ≤ player.hand.length
  · rw [if_pos full]
    exact ⟨rfl, rfl⟩
  · obtain rfl := nothing.resolve_right full
    rw [if_neg full, draw_nil]
    simp only [Player.unmarked, List.append_nil, and_self]

/-- A change of a player that leaves the player without marks the same leaves the substance. -/
theorem substance_updatePlayer {id : String} {change : Player → Player}
    (kept : ∀ player, game.player? id = some player →
      (change player).unmarked = player.unmarked) :
    (game.updatePlayer id change).substance = game.substance :=
  congrArg (fun players => { game with players, events := [] })
    (map_updateFirst Player.unmarked kept)

theorem substance_replenish (replete : game.Replete) (id : String) :
    (game.replenish id).substance = game.substance := by
  cases seat : game.player? id with
  | none => rw [replenish_of_unseated seat]
  | some player =>
    have seated : id ∈ game.seatIds := isSome_player?_iff.mp (by rw [seat]; rfl)
    have nothing : game.deck = [] ∨ handSize ≤ player.hand.length :=
      replete.imp_right fun full => by
        rw [← handOf_of_player? seat]
        exact full id seated
    obtain ⟨same, left⟩ := unmarked_replenished nothing
    have updated := @substance_updatePlayer game id (fun _ => (player.replenished game.deck).1)
      fun found first => by
        rw [seat] at first
        cases first
        exact same
    rw [replenish_of_player? seat, left]
    exact updated

theorem substance_foldl_replenish (replete : game.Replete) (ids : List String) :
    (ids.foldl replenish game).substance = game.substance := by
  induction ids generalizing game with
  | nil => rfl
  | cons id ids hypothesis =>
    have first := substance_replenish replete id
    rw [List.foldl_cons, hypothesis (replete.congr first), first]

/-! ## Closing a round again -/

/-- What a closed round leaves: a game at rest, without votes. -/
structure Closed (game : Game) : Prop where
  rests : game.Resting
  votes : game.endVotes = .none

theorem closed_taken (started : game.started = true) : game.taken.Closed := by
  refine ⟨resting_taken started, ?_⟩
  rw [taken, passOver_keeps endVotes fun _ _ _ => rfl]
  rfl

/-- A table that is clear already can be taken up. -/
theorem Closed.takeTable (closed : game.Closed) (id : String) : (game.takeTable id).Closed :=
  ⟨closed.rests.congr rfl closed.rests.table.symm rfl rfl, closed.votes⟩

/-- There is nothing to clear on a closed round. -/
theorem Closed.clearTable (closed : game.Closed) : game.clearTable = game := by
  obtain ⟨⟨-, table, timers⟩, votes⟩ := closed
  have attackTimer := timers .attack
  have defendTimer := timers .defend
  cases game
  dsimp only [timer] at table votes attackTimer defendTimer
  subst table votes attackTimer defendTimer
  simp [Game.clearTable, tableCards]

/-- When nobody draws any more, closing a closed round changes nothing of substance. -/
theorem substance_resolveRound (closed : game.Closed) (replete : game.Replete) :
    (game.resolveRound false).substance = game.substance := by
  have filled : game.replenishAll.substance = game.substance :=
    substance_foldl_replenish replete game.drawingOrder
  have cleared := congrArg Game.clearTable filled
  have same : game.substance.clearTable = game.substance :=
    Closed.clearTable ⟨closed.rests.congr rfl rfl rfl rfl, closed.votes⟩
  exact cleared.trans same

/-- Taking up a clear table changes nothing of substance. -/
theorem substance_takeTable (clear : game.table = []) (id : String) :
    (game.takeTable id).substance = game.substance := by
  have taken := @substance_updatePlayer game id
    (fun player => { player with hand := player.hand ++ tableCards game.table }) fun player _ => by
      rw [clear]
      simp [tableCards, Player.unmarked]
  have unlaid : { game with table := [] } = game := by rw [← clear]
  have again := congrArg (fun later => { later with table := [] }) taken
  exact again.trans (congrArg substance unlaid)

theorem substance_passOver (game : Game) (id : String) :
    (game.passOver id).substance = game.substance.passOver id := by
  have next : ∀ other, game.substance.nextSeat? other = game.nextSeat? other := fun other => by
    rw [nextSeat?_eq, seatIds_substance, ← nextSeat?_eq]
  unfold passOver
  simp only [next]
  cases game.nextSeat? id with
  | none => rfl
  | some attackerId =>
    dsimp only
    cases game.nextSeat? attackerId <;> rfl

/-- The attack passes over a seat to a place that does not depend on where it was. -/
theorem passOver_passOver (game : Game) (id : String) :
    (game.passOver id).passOver id = game.passOver id := by
  by_cases stays : game.passOver id = game
  · rw [stays, stays]
  · obtain ⟨attackerId, defenderId, first, second⟩ : ∃ attackerId defenderId,
        game.nextSeat? id = some attackerId ∧ game.nextSeat? attackerId = some defenderId := by
      unfold passOver at stays
      split at stays
      · split at stays
        · exact ⟨_, _, ‹_›, ‹_›⟩
        · exact absurd rfl stays
      · exact absurd rfl stays
    have moves : ∀ other : Game, (∀ seat, other.nextSeat? seat = game.nextSeat? seat) →
        other.passOver id = { other with attackerId, defenderId } := fun other same => by
      unfold passOver
      simp only [same, first, second]
    rw [moves game fun _ => rfl]
    exact moves _ fun _ => rfl

/-- Taking up a clear table again changes nothing of substance: nobody draws, and the attack passes
over the same seat. -/
theorem substance_take {place : Nat} (attacks : game.AttacksFrom place)
    (started : game.started = true) :
    (((game.taken.takeTable game.defenderId).resolveRound false).passOver
      game.defenderId).substance = game.taken.substance := by
  have closed := closed_taken started
  have replete : game.taken.Replete := by
    refine or_iff_not_imp_left.mpr fun left id seated => ?_
    rw [seatIds_eq_of_terms (terms_taken game)] at seated
    exact (fillsUp_taken attacks).full left id seated
  have again := substance_takeTable closed.rests.table game.defenderId
  have passed : game.taken.passOver game.defenderId = game.taken := passOver_passOver _ _
  calc (((game.taken.takeTable game.defenderId).resolveRound false).passOver
          game.defenderId).substance
      = ((game.taken.takeTable game.defenderId).resolveRound false).substance.passOver
          game.defenderId := substance_passOver _ _
    _ = (game.taken.takeTable game.defenderId).substance.passOver game.defenderId := by
        rw [substance_resolveRound (closed.takeTable _) (replete.congr again)]
    _ = game.taken.substance.passOver game.defenderId := by rw [again]
    _ = (game.taken.passOver game.defenderId).substance := (substance_passOver _ _).symm
    _ = game.taken.substance := by rw [passed]

/-! ## Commands that change nothing -/

/-- After a round that was beaten off the defender attacks. -/
theorem attackerId_resolveRound {place : Nat} (attacks : game.AttacksFrom place) :
    (game.resolveRound true).attackerId = game.defenderId := by
  have moved := attacks.resolveRound_true.attacker
  rw [seatIds_eq_of_terms (terms_resolveRound game true), attacks.defender] at moved
  exact (Option.some.inj moved).symm

/-- A card that occurs once is not in the hand any more when it has been played. -/
theorem not_mem_withoutCard {userId : String} {card : Card} (held : card ∈ game.handOf userId)
    (different : (game.handOf userId).Nodup) :
    card ∉ (game.withoutCard userId card).handOf userId := by
  rw [handOf_withoutCard held, if_pos rfl]
  exact different.not_mem_erase

theorem ready_of_mem {userId : String} (already : userId ∈ game.readyVotes) (now : Instant) :
    (game.apply userId .ready now).game = game := by
  have effect := apply_effect game userId .ready now
  generalize (game.apply userId .ready now).violation = verdict,
    (game.apply userId .ready now).game = result at effect ⊢
  cases effect with
  | readyAgain => rfl
  | ready fresh | start fresh => exact absurd already fresh
  | timerRefused kind asks | timerClosed kind asks | timerShown kind asks => cases asks

/-- Only an attack by the attacker, with a card of the hand, can come too late. -/
theorem attacker_of_attackLate {userId : String} {card : Card} {now : Instant}
    (late : game.attackViolation? userId card now = some .attackTimeOver) :
    userId = game.attackerId ∧ card ∈ game.handOf userId := by
  rw [attackViolation?] at late
  rcases firstViolation_cons.mp late with other | ⟨-, late⟩
  · cases (Violation.unless_eq_some.mp other).2
  rcases firstViolation_cons.mp late with other | ⟨attacker, late⟩
  · cases (Violation.unless_eq_some.mp other).2
  rcases firstViolation_cons.mp late with other | ⟨held, -⟩
  · rcases userHasCard_eq_some other with other | other <;> cases other
  refine ⟨roleOf_eq_attacker.mp ?_, mem_handOf.mpr (userHasCard_eq_none.mp held)⟩
  simpa [Check.isAttacker] using attacker

/-- An attack by somebody else, or with a card that is not in the hand, changes nothing. -/
theorem attack_of_not_held {userId : String} {card : Card}
    (refused : userId = game.attackerId → card ∉ game.handOf userId) (now : Instant) :
    (game.apply userId (.attack card) now).game = game := by
  have effect := apply_effect game userId (.attack card) now
  generalize (game.apply userId (.attack card) now).violation = verdict,
    (game.apply userId (.attack card) now).game = result at effect ⊢
  cases effect with
  | attackRefused => rfl
  | attackLate _ late =>
    obtain ⟨attacker, held⟩ := attacker_of_attackLate late
    exact absurd held (refused attacker)
  | attack _ permitted =>
    exact absurd (mem_handOf.mpr permitted.held) (refused permitted.attacker)
  | timerRefused kind asks | timerClosed kind asks | timerShown kind asks => cases asks

/-- A defence that is not permitted changes nothing of substance. -/
theorem substance_defend {userId : String} {target card : Card} {now : Instant}
    (refused : ¬game.DefencePermitted userId target card now) :
    (game.apply userId (.defend target card) now).game.substance = game.substance := by
  have effect := apply_effect game userId (.defend target card) now
  generalize (game.apply userId (.defend target card) now).violation = verdict,
    (game.apply userId (.defend target card) now).game = result at effect ⊢
  cases effect with
  | defendRefused | defendLate => rfl
  | defend _ _ permitted => exact absurd permitted refused
  | timerRefused kind asks | timerClosed kind asks | timerShown kind asks => cases asks

/-- A question about a timer that has not run out changes nothing of substance. -/
theorem substance_checkTimer {userId : String} {action : Action} {kind : TimerKind} {now : Instant}
    (asks : action.timer? = some kind) (running : game.timerExpired kind now = false) :
    (game.apply userId action now).game.substance = game.substance := by
  have effect := apply_effect game userId action now
  generalize (game.apply userId action now).violation = verdict,
    (game.apply userId action now).game = result at effect ⊢
  cases effect with
  | timerRefused | timerShown => rfl
  | timerClosed other alsoAsks started expired =>
    cases asks.symm.trans alsoAsks
    cases running.symm.trans expired
  | _ => cases asks

/-! ## Any command -/

/-- **A command that is applied again, at the same instant, changes nothing of substance.** -/
theorem substance_apply_apply {place : Nat} (attacks : game.AttacksFrom place)
    (different : ∀ id, (game.handOf id).Nodup) (userId : String) (action : Action)
    (now : Instant) :
    ((game.apply userId action now).game.apply userId action now).game.substance =
      (game.apply userId action now).game.substance := by
  have effect := apply_effect game userId action now
  generalize (game.apply userId action now).violation = verdict,
    resultIs : (game.apply userId action now).game = result at effect ⊢
  cases effect with
  | unregistered | readyAgain | attackRefused | defendRefused | endRefused | takeRefused
  | takeUnseated | timerRefused => exact congrArg substance resultIs
  | ready | start =>
    exact congrArg substance (ready_of_mem (Voters.mem_insert.mpr (.inl rfl)) now)
  | attackLate card late =>
    -- the attacker of the closed round does not attack any more
    have notAttacker : userId ≠ (game.resolveRound true).attackerId := by
      rw [(attacker_of_attackLate late).1, attackerId_resolveRound attacks]
      exact attacks.attacker_ne_defender
    exact congrArg substance (attack_of_not_held (fun attacker => absurd attacker notAttacker) now)
  | attack card permitted =>
    have gone : card ∉ ((game.withoutCard userId card).layAttack userId card now).handOf userId :=
      not_mem_withoutCard (mem_handOf.mpr permitted.held) (different userId)
    rw [attack_of_not_held (fun _ => gone) now]
  | defendLate target card reported =>
    refine substance_defend fun permitted => ?_
    have nothing : (game.pushEvent .endAttack).defendViolation? userId target card now = none :=
      defendViolation?_eq_none_iff.mpr permitted
    cases reported.symm.trans nothing
  | defend target card permitted =>
    refine substance_defend fun again => ?_
    have held := mem_handOf.mpr again.held
    rw [layCover_keeps (fun later => later.handOf userId) fun _ _ _ => rfl] at held
    exact not_mem_withoutCard (mem_handOf.mpr permitted.held) (different userId) held
  | vote permitted waiting =>
    have voted : (game.voteEnd userId).voteEnd userId = game.voteEnd userId := by
      have known : userId ∈ (game.voteEnd userId).endVotes := Voters.mem_insert.mpr (.inl rfl)
      rw [voteEnd, Voters.insert_of_mem known]
    have again : (game.voteEnd userId).EndPermitted userId now :=
      ⟨permitted.laid, permitted.started, permitted.notDefender, permitted.inTime,
        permitted.beaten⟩
    rw [(apply_vote again (voted.symm ▸ waiting)).2, voted]
  | endRound =>
    exact congrArg substance (endAttack_of_clear (table_endRound (game.voteEnd userId))).2
  | take permitted =>
    rw [permitted.defender]
    have effect := apply_effect game.taken game.defenderId .takeAllCards now
    show (game.taken.apply game.defenderId .takeAllCards now).game.substance = game.taken.substance
    generalize (game.taken.apply game.defenderId .takeAllCards now).violation = verdict,
      (game.taken.apply game.defenderId .takeAllCards now).game = result at effect ⊢
    cases effect with
    | takeRefused | takeUnseated => rfl
    | take => exact substance_take attacks permitted.started
    | timerRefused kind asks | timerClosed kind asks | timerShown kind asks => cases asks
  | timerClosed kind asks started =>
    exact substance_checkTimer asks ((resting_resolveRound started true).notExpired kind now)
  | timerShown kind asks started running => exact substance_checkTimer asks running

/-- **A command that is delivered twice does no harm.**  In every game that a run from a deal
reaches, applying a command again at the same instant leaves everything but the events and the marks
of the last draw as the first time left it, whether the command was carried out or rejected. -/
theorem repeated_command_is_harmless {id : String} {entrants : List Entrant} {settings : Settings}
    {seed : UInt64} {dealt : Game} (isDealt : deal id entrants settings seed = .ok dealt)
    (steps : List Step) (userId : String) (action : Action) (now : Instant) :
    let once := ((dealt.afterAll steps).apply userId action now).game
    let twice := (once.apply userId action now).game
    { twice with players := twice.players.map Player.unmarked, events := [] } =
      { once with players := once.players.map Player.unmarked, events := [] } := by
  obtain ⟨place, start⟩ := attacksFrom_of_deal isDealt
  have whole : (dealt.afterAll steps).cards = (Card.pack : Multiset Card) :=
    (cards_afterAll dealt steps).trans (cards_of_deal isDealt)
  exact substance_apply_apply (start.afterAll steps) (nodup_handOf whole) userId action now

/-- A run in which two players get ready and the first card is laid. -/
def firstNine : List Step := [
  .command "a" .ready (.ofUnixSeconds 0), .command "b" .ready (.ofUnixSeconds 0),
  .command "b" (.attack ⟨.clubs, .nine⟩) (.ofUnixSeconds 1)]

/-- Between two players, whoever has taken up the card defends again: a second asking for the cards
is permitted as well, and changes no hand. -/
theorem repeated_command_is_harmless_taking_in_a_duel :
    deal "g" [⟨"a", ""⟩, ⟨"b", ""⟩] ⟨Double.ofInt 30⟩ 7 = .ok duel ∧
      let once := ((duel.afterAll firstNine).apply "a" .takeAllCards (.ofUnixSeconds 2)).game
      let twice := (once.apply "a" .takeAllCards (.ofUnixSeconds 2)).game
      (once.apply "a" .takeAllCards (.ofUnixSeconds 2)).violation = none ∧
        twice.substance = once.substance := by
  refine ⟨deal_duel, by decide +kernel, ?_⟩
  exact repeated_command_is_harmless deal_duel firstNine "a" .takeAllCards (.ofUnixSeconds 2)

end Game

end Durak
