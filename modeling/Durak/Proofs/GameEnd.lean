import Durak.Proofs.Ending
import Durak.Proofs.Refill

/-!
# When a game ends

Whether a vote ends the game is decided after the round has been closed: the deck has run out, and
the attacker or the defender of that round has no cards left.  Both can be told before the round is
closed.  The attacker draws first, so an attacker without cards stays without only if the deck is
empty already.  The defender draws last, so a defender without cards stays without when the deck
holds no more cards than everybody else lacks to six; and then the deck has run out as well.

`endGame_iff` is this for every command of a run: no other command ends a game, and one that does
announces the end right after the end of the attack.
-/

set_option autoImplicit false

namespace Durak

namespace Game

/-- Everybody who votes on the end of an attack. -/
def voters (game : Game) : List String := game.seatIds.filter fun id => id != game.defenderId

theorem mem_voters {game : Game} {id : String} :
    id ∈ game.voters ↔ id ∈ game.seatIds ∧ id ≠ game.defenderId := by
  rw [voters, List.mem_filter, bne_iff_ne]

section

variable {game : Game} {place : Nat}

/-! ## Without cards after the round -/

theorem length_share (game : Game) (before : List String) (id : String) :
    (game.share before id).length =
      min (game.lack id) (game.deck.length - game.lackOf before) := by
  rw [share, List.length_take, List.length_drop, List.length_reverse]

/-- A player without cards has none after drawing exactly when nothing is left to draw. -/
theorem filled_eq_nil_iff {before : List String} {id : String} :
    game.handOf id ++ game.share before id = [] ↔
      (game.handOf id).length = 0 ∧ game.deck.length ≤ game.lackOf before := by
  rw [List.append_eq_nil_iff, ← List.length_eq_zero_iff, ← List.length_eq_zero_iff, length_share]
  refine and_congr_right fun none_ => ?_
  have lacksAll : game.lack id = handSize := by rw [lack, none_]; rfl
  have several : 0 < handSize := by decide
  omega

/-- An attacker runs out of cards only with an empty deck. -/
theorem attacker_out_iff (attacks : game.AttacksFrom place) :
    (game.resolveRound true).hasNoCards game.attackerId = true ↔
      (game.handOf game.attackerId).length = 0 ∧ game.deck.length = 0 := by
  have seats := seatIds_eq_of_terms (terms_resolveRound game true)
  rw [hasNoCards_eq_true, seats, handOf_resolveRound, handOf_attacker_replenishAll attacks,
    filled_eq_nil_iff, lackOf_nil, Nat.le_zero]
  exact and_iff_right attacks.attacker_mem

/-- A defender runs out of cards when the others draw the whole deck. -/
theorem defender_out_iff (attacks : game.AttacksFrom place) :
    (game.resolveRound true).hasNoCards game.defenderId = true ↔
      (game.handOf game.defenderId).length = 0 ∧
        game.deck.length ≤ game.lackOf game.voters := by
  have seats := seatIds_eq_of_terms (terms_resolveRound game true)
  rw [hasNoCards_eq_true, seats, handOf_resolveRound, handOf_defender_replenishAll attacks,
    filled_eq_nil_iff, lackOf_others attacks]
  exact and_iff_right attacks.defender_mem

/-- When the others draw the whole deck, nothing is left of it. -/
theorem deck_eq_nil_of_lackOf (attacks : game.AttacksFrom place)
    (short : game.deck.length ≤ game.lackOf game.voters) :
    (game.resolveRound true).deck = [] := by
  have everybody : game.lackOf game.seatIds =
      game.lackOf game.voters + game.lackOf [game.defenderId] := by
    rw [voters, ← lackOf_others attacks, ← lackOf_perm game (drawingOrder_perm attacks),
      drawingOrder, lackOf_append]
  rw [(players_resolveRound game true).2, deck_replenishAll attacks, everybody,
    Nat.sub_eq_zero_of_le (by omega), List.take_zero]

/-! ## How the round decides -/

/-- Whether a round ends the game if it is voted closed now: the attacker has no cards and there is
nothing to draw, or the defender has none and the others draw all there is. -/
def IsLast (game : Game) : Prop :=
  ((game.handOf game.attackerId).length = 0 ∧ game.deck.length = 0) ∨
    ((game.handOf game.defenderId).length = 0 ∧ game.deck.length ≤ game.lackOf game.voters)

/-- How a last round ends the game: with a draw if nobody of the two has a card and there is
nothing to draw. -/
def lastResult (game : Game) : GameResult :=
  if (game.handOf game.attackerId).length = 0 ∧ (game.handOf game.defenderId).length = 0 ∧
    game.deck.length = 0 then .draw else .win

/-- What is decided after the round has been closed can be told before. -/
theorem evaluateEnd?_resolveRound (attacks : game.AttacksFrom place) {result : GameResult} :
    (game.resolveRound true).evaluateEnd? game.attackerId game.defenderId = some result ↔
      game.IsLast ∧ result = game.lastResult := by
  have gone := deck_eq_nil_of_lackOf attacks
  have attackerOut := attacker_out_iff attacks
  have defenderOut := defender_out_iff attacks
  unfold evaluateEnd? IsLast lastResult
  cases attackerSays : (game.resolveRound true).hasNoCards game.attackerId with
  | true =>
    obtain ⟨none_, empty⟩ := attackerOut.mp attackerSays
    have short : game.deck.length ≤ game.lackOf game.voters := by omega
    rw [gone short]
    cases defenderSays : (game.resolveRound true).hasNoCards game.defenderId with
    | true => simp [none_, empty, (defenderOut.mp defenderSays).1, eq_comm]
    | false =>
      have held : (game.handOf game.defenderId).length ≠ 0 := fun out =>
        Bool.false_ne_true (defenderSays.symm.trans (defenderOut.mpr ⟨out, short⟩))
      simp [none_, empty, held, eq_comm]
  | false =>
    have notOut : ¬((game.handOf game.attackerId).length = 0 ∧ game.deck.length = 0) :=
      fun out => Bool.false_ne_true (attackerSays.symm.trans (attackerOut.mpr out))
    have noDraw : ¬((game.handOf game.attackerId).length = 0 ∧
        (game.handOf game.defenderId).length = 0 ∧ game.deck.length = 0) :=
      fun ⟨out, _, empty⟩ => notOut ⟨out, empty⟩
    rw [if_neg noDraw]
    cases defenderSays : (game.resolveRound true).hasNoCards game.defenderId with
    | true =>
      obtain ⟨none_, short⟩ := defenderOut.mp defenderSays
      rw [gone short]
      simp [none_, short, eq_comm]
    | false =>
      have alsoNotOut := fun out =>
        Bool.false_ne_true (defenderSays.symm.trans (defenderOut.mpr out))
      split <;>
        exact ⟨fun same => (by cases same), fun last => (last.1.elim notOut alsoNotOut).elim⟩

/-- What a vote announces that everybody else has joined. -/
theorem occurred_of_last (attacks : game.AttacksFrom place) {userId : String} {now : Instant}
    (permitted : game.EndPermitted userId now)
    (everyone : (game.voteEnd userId).everyoneEnds = true) (last : game.IsLast) :
    game.occurred userId .endAttack now = [.endAttack, .endGame game.lastResult] := by
  rw [occurred_endRound permitted everyone,
    (evaluateEnd?_resolveRound attacks).mpr ⟨last, rfl⟩]
  rfl

theorem last_of_endGame (attacks : game.AttacksFrom place) {userId : String} {now : Instant}
    (permitted : game.EndPermitted userId now)
    (everyone : (game.voteEnd userId).everyoneEnds = true) {result : GameResult}
    (ends : .endGame result ∈ game.occurred userId .endAttack now) :
    game.IsLast ∧ result = game.lastResult := by
  rw [occurred_endRound permitted everyone] at ends
  refine (evaluateEnd?_resolveRound attacks).mp ?_
  simpa using ends

end

/-! ## Every command of a run -/

/-- An accepted vote was permitted. -/
theorem endPermitted_of_accepted {game : Game} {userId : String} {now : Instant}
    (accepted : (game.apply userId .endAttack now).violation = none) :
    game.EndPermitted userId now := by
  have effect := apply_effect game userId .endAttack now
  rw [accepted] at effect
  generalize (game.apply userId .endAttack now).game = result at effect
  cases effect with
  | vote permitted | endRound permitted => exact permitted
  | timerClosed kind asks | timerShown kind asks => cases asks

/-- A vote completes the vote when everybody else has voted before. -/
theorem everyoneEnds_voteEnd_iff {game : Game} {userId : String} :
    (game.voteEnd userId).everyoneEnds = true ↔
      ∀ voter ∈ game.voters, voter = userId ∨ voter ∈ game.endVotes := by
  rw [everyoneEnds_iff]
  constructor
  · intro every voter member
    obtain ⟨seated, other⟩ := mem_voters.mp member
    exact Voters.mem_insert.mp (every voter seated other)
  · intro every voter seated other
    exact Voters.mem_insert.mpr (every voter (mem_voters.mpr ⟨seated, other⟩))

/-- An event that a run emits is emitted by one of its steps. -/
theorem exists_step_of_emitted {game : Game} {steps : List Step} {event : Event}
    (told : event ∈ game.emitted steps) : ∃ before step after,
      steps = before ++ step :: after ∧ event ∈ (game.afterAll before).emittedBy step := by
  induction steps generalizing game with
  | nil => exact absurd told List.not_mem_nil
  | cons step steps hypothesis =>
    rcases List.mem_append.mp told with first | later
    · exact ⟨[], step, steps, rfl, first⟩
    · obtain ⟨before, other, after, split, there⟩ := hypothesis later
      exact ⟨step :: before, other, after, congrArg (step :: ·) split, there⟩

/-- **When a game ends.**  In every game that a run from a deal reaches, a command ends the game
exactly when it is a vote with which everybody but the defender has voted, and either the attacker
has no cards and the deck is empty, or the defender has no cards and the deck holds no more cards
than the attacker and the observers lack to six.  The game is a draw when attacker, defender and
deck are all without cards, and won otherwise; and that is told last, right after the end of the
attack.  Nothing else that happens along a run tells the end of the game. -/
theorem endGame_iff {id : String} {entrants : List Entrant} {settings : Settings} {seed : UInt64}
    {dealt : Game} (isDealt : deal id entrants settings seed = .ok dealt) (steps : List Step) :
    (let game := dealt.afterAll steps
      let deckSize := game.deck.length
      let attacking := (game.handOf game.attackerId).length
      let defending := (game.handOf game.defenderId).length
      ∀ (userId : String) (action : Action) (now : Instant),
        ((∃ result, .endGame result ∈ game.occurred userId action now) ↔
          action = .endAttack ∧ (game.apply userId action now).violation = none ∧
            (∀ voter ∈ game.voters, voter = userId ∨ voter ∈ game.endVotes) ∧
            ((attacking = 0 ∧ deckSize = 0) ∨
              (defending = 0 ∧ deckSize ≤ game.lackOf game.voters))) ∧
        ∀ result, .endGame result ∈ game.occurred userId action now →
          game.occurred userId action now = [.endAttack, .endGame result] ∧
            result = if attacking = 0 ∧ defending = 0 ∧ deckSize = 0 then .draw else .win) ∧
      ∀ result, .endGame result ∈ dealt.emitted steps → ∃ before voter now after,
        steps = before ++ .command voter .endAttack now :: after ∧
          .endGame result ∈ (dealt.afterAll before).occurred voter .endAttack now := by
  obtain ⟨first, start⟩ := attacksFrom_of_deal isDealt
  refine ⟨fun userId action now => ⟨⟨?_, ?_⟩, fun result ends => ?_⟩, fun result ends => ?_⟩
  · rintro ⟨result, ends⟩
    obtain ⟨rfl, permitted, everyone⟩ := vote_of_endGame ends
    exact ⟨rfl, (apply_endRound permitted everyone).1, everyoneEnds_voteEnd_iff.mp everyone,
      (last_of_endGame (start.afterAll steps) permitted everyone ends).1⟩
  · rintro ⟨rfl, accepted, joined, last⟩
    have told := occurred_of_last (start.afterAll steps) (endPermitted_of_accepted accepted)
      (everyoneEnds_voteEnd_iff.mpr joined) last
    exact ⟨_, told ▸ List.mem_cons_of_mem _ (List.mem_singleton_self _)⟩
  · obtain ⟨rfl, permitted, everyone⟩ := vote_of_endGame ends
    obtain ⟨last, rfl⟩ := last_of_endGame (start.afterAll steps) permitted everyone ends
    exact ⟨occurred_of_last (start.afterAll steps) permitted everyone last, rfl⟩
  · obtain ⟨before, step, after, split, told⟩ := exists_step_of_emitted ends
    cases step with
    | handOut => exact absurd told List.not_mem_nil
    | command voter action now =>
      obtain ⟨rfl, -, -⟩ := vote_of_endGame told
      exact ⟨before, voter, now, after, split, told⟩

/-- A run in which one of two players hands over every card but the seven of hearts, and the other
beats that one. -/
def lastSeven : List Step :=
  handingOver ((duel.handOf "b").erase ⟨.hearts, .seven⟩ ++ duel.deck.reverse) ++ [
    .command "b" (.attack ⟨.hearts, .seven⟩) (.ofUnixSeconds 0),
    .command "a" (.defend ⟨.hearts, .seven⟩ ⟨.hearts, .jack⟩) (.ofUnixSeconds 1)]

/-- The player whose last card was beaten votes, and wins. -/
theorem endGame_iff_after_the_last_card :
    deal "g" [⟨"a", ""⟩, ⟨"b", ""⟩] ⟨Double.ofInt 30⟩ 7 = .ok duel ∧
      (duel.afterAll lastSeven).occurred "b" .endAttack (.ofUnixSeconds 2) =
        [.endAttack, .endGame .win] := by
  refine ⟨deal_duel, ?_⟩
  obtain ⟨ends, told⟩ :=
    (endGame_iff deal_duel lastSeven).1 "b" .endAttack (.ofUnixSeconds 2)
  obtain ⟨result, isTold⟩ := ends.mpr
    ⟨rfl, by decide +kernel, by decide +kernel, .inl (by decide +kernel)⟩
  obtain ⟨whole, isWon⟩ := told result isTold
  have held : ((duel.afterAll lastSeven).handOf
      (duel.afterAll lastSeven).defenderId).length ≠ 0 := by
    decide +kernel
  rw [whole, isWon, if_neg fun out => held out.2.1]

end Game

end Durak
