import Durak.Proofs.GameEnd
import Mathlib.Data.List.Induction
import Mathlib.Data.List.Sort

/-!
# Voting on the end of an attack

Everybody but the defender votes on whether an attack is over.  Votes are kept until the round is
closed, and a card that is laid in between makes them void.  So along a run whose commands come from
the seats, only voters have voted, somebody still has to vote, and there are votes only while every
card on the table is beaten (`ballotInOrder_afterAll`).

What a sequence of votes does is `Game.afterVotes`: until everybody has voted they are recorded and
nothing else changes; then the round is closed, and as its table is clear no further vote is
accepted.  The result depends on who votes, and not on the order, on repetitions or on the clock
(`afterVotes_congr`).
-/

set_option autoImplicit false

namespace Durak

namespace Voters

/-- Two sets with the same members are equal. -/
theorem ext_mem {first second : Voters} (same : ∀ id, id ∈ first ↔ id ∈ second) :
    first = second := by
  obtain ⟨members, ascending⟩ := first
  obtain ⟨others, alsoAscending⟩ := second
  obtain rfl : members = others := ascending.eq_of_mem_iff alsoAscending same
  rfl

/-- The set with several more members. -/
def insertAll (voters : Voters) (ids : List String) : Voters := ids.foldl insert voters

theorem mem_insertAll {voters : Voters} {ids : List String} {id : String} :
    id ∈ voters.insertAll ids ↔ id ∈ voters ∨ id ∈ ids := by
  induction ids generalizing voters with
  | nil => simp [insertAll]
  | cons first ids hypothesis =>
    have later : voters.insertAll (first :: ids) = (voters.insert first).insertAll ids := rfl
    rw [later, hypothesis, mem_insert, List.mem_cons]
    tauto

end Voters

/-- A step that comes from a seat of the game. -/
def Step.FromSeatOf (game : Game) : Step → Prop
  | .command userId _ _ => userId ∈ game.seatIds
  | .handOut => True

instance (game : Game) : DecidablePred (Step.FromSeatOf game)
  | .command userId _ _ => inferInstanceAs (Decidable (userId ∈ game.seatIds))
  | .handOut => inferInstanceAs (Decidable True)

namespace Game

/-! ## Who has voted along a run -/

/-- Only voters have voted, somebody still has to, and there are votes only in a started game with
cards on the table that are all beaten. -/
structure BallotInOrder (game : Game) : Prop where
  voters : ∀ id ∈ game.endVotes, id ∈ game.voters
  pending : ∃ id ∈ game.voters, id ∉ game.endVotes
  settled : ∀ id ∈ game.endVotes,
    game.started = true ∧ game.table ≠ [] ∧ ∀ entry ∈ game.table, entry.isBeaten = true

variable {game : Game} {place : Nat}

/-- Before anybody votes all is in order: the attacker at least has to vote. -/
theorem ballotInOrder_of_noVotes (attacks : game.AttacksFrom place)
    (noVotes : ∀ id, id ∉ game.endVotes) : game.BallotInOrder := by
  refine ⟨fun id voted => absurd voted (noVotes id), ⟨game.attackerId, ?_, noVotes _⟩,
    fun id voted => absurd voted (noVotes id)⟩
  exact mem_voters.mpr ⟨attacks.attacker_mem, attacks.attacker_ne_defender⟩

/-- The votes stay in order while nobody votes and nothing on the table changes. -/
theorem BallotInOrder.congr {other : Game} (inOrder : game.BallotInOrder)
    (endVotes : other.endVotes = game.endVotes) (seats : other.seatIds = game.seatIds)
    (defender : other.defenderId = game.defenderId) (table : other.table = game.table)
    (started : game.started = true → other.started = true) : other.BallotInOrder := by
  have sameVoters : other.voters = game.voters := by
    rw [Game.voters, Game.voters, seats, defender]
  refine ⟨?_, ?_, ?_⟩
  · rw [endVotes, sameVoters]
    exact inOrder.voters
  · rw [endVotes, sameVoters]
    exact inOrder.pending
  · rw [endVotes, table]
    exact fun id voted => ⟨started (inOrder.settled id voted).1, (inOrder.settled id voted).2⟩

theorem not_mem_resolveRound (game : Game) (switch : Bool) (id : String) :
    id ∉ (game.resolveRound switch).endVotes := List.not_mem_nil

/-- **A command from a seat leaves the votes in order.** -/
theorem ballotInOrder_apply (attacks : game.AttacksFrom place) (inOrder : game.BallotInOrder)
    {userId : String} (seated : userId ∈ game.seatIds) (action : Action) (now : Instant) :
    (game.apply userId action now).game.BallotInOrder := by
  have after := attacks.apply userId action now
  have effect := apply_effect game userId action now
  generalize (game.apply userId action now).violation = verdict,
    (game.apply userId action now).game = result at effect after ⊢
  cases effect with
  | unregistered | readyAgain | attackRefused | defendRefused | endRefused | takeRefused
  | takeUnseated | timerRefused => exact inOrder
  | ready | defendLate | timerShown => exact inOrder.congr rfl rfl rfl rfl fun started => started
  | start => exact inOrder.congr rfl rfl rfl rfl fun _ => rfl
  | attackLate | timerClosed =>
    exact ballotInOrder_of_noVotes after (not_mem_resolveRound game true)
  | attack => exact ballotInOrder_of_noVotes after fun _ => List.not_mem_nil
  | defend target card permitted =>
    -- an open card is left to cover, so nobody has voted
    obtain ⟨entry, laid, isOpen⟩ := permitted.open_
    have noVotes : ∀ id, id ∉ game.endVotes := by
      intro id voted
      have beaten := (inOrder.settled id voted).2.2 entry laid
      simp [Check.isOpenTarget, beaten] at isOpen
    have kept : ((game.withoutCard userId card).layCover userId target card now).endVotes =
        game.endVotes := layCover_keeps endVotes (fun _ _ _ => rfl) _ userId target card now
    exact ballotInOrder_of_noVotes after (by rwa [kept])
  | vote permitted waiting =>
    have isVoter : userId ∈ game.voters :=
      mem_voters.mpr ⟨seated, permitted.notDefender.elim
        (fun attacker => attacker ▸ attacks.attacker_ne_defender) fun other => other⟩
    refine ⟨fun id voted => ?_, ?_, fun _ _ =>
      ⟨permitted.started, permitted.laid, permitted.beaten⟩⟩
    · rcases Voters.mem_insert.mp voted with rfl | before
      · exact isVoter
      · exact inOrder.voters id before
    · have unfinished := Bool.eq_false_iff.mp waiting
      rw [Ne, everyoneEnds_voteEnd_iff] at unfinished
      push Not at unfinished
      obtain ⟨voter, member, other, absent⟩ := unfinished
      exact ⟨voter, member, fun voted => (Voters.mem_insert.mp voted).elim other absent⟩
  | endRound =>
    refine ballotInOrder_of_noVotes after fun id => ?_
    rw [endRound_keeps endVotes fun _ _ => rfl]
    exact not_mem_resolveRound (game.voteEnd userId) true id
  | take =>
    refine ballotInOrder_of_noVotes after fun id => ?_
    rw [passOver_keeps endVotes fun _ _ _ => rfl]
    exact not_mem_resolveRound (game.takeTable userId) false id

/-- Steps do not change which steps come from the seats. -/
theorem fromSeatOf_after {later : Step} (fromSeat : later.FromSeatOf game) (step : Step) :
    later.FromSeatOf (game.after step) := by
  cases later with
  | command userId action now =>
    rw [Step.FromSeatOf, seatIds_eq_of_terms (terms_after game step)]
    exact fromSeat
  | handOut => trivial

/-- Along a run whose commands come from the seats, the votes are in order. -/
theorem ballotInOrder_afterAll (attacks : game.AttacksFrom place) (inOrder : game.BallotInOrder)
    {steps : List Step} (fromSeats : ∀ step ∈ steps, step.FromSeatOf game) :
    (game.afterAll steps).BallotInOrder := by
  induction steps generalizing game place with
  | nil => exact inOrder
  | cons step steps hypothesis =>
    rw [List.forall_mem_cons] at fromSeats
    refine hypothesis (attacks.after step) ?_ fun later member =>
      fromSeatOf_after (fromSeats.2 later member) step
    cases step with
    | command userId action now => exact ballotInOrder_apply attacks inOrder fromSeats.1 _ now
    | handOut => exact inOrder.congr rfl rfl rfl rfl fun started => started

theorem ballotInOrder_of_deal {id : String} {entrants : List Entrant} {settings : Settings}
    {seed : UInt64} {dealt : Game} (isDealt : deal id entrants settings seed = .ok dealt) :
    dealt.BallotInOrder := by
  obtain ⟨place, attacks⟩ := attacksFrom_of_deal isDealt
  obtain ⟨-, trump, order, attackerSeat, -, -, rfl⟩ := deal_eq_ok isDealt
  exact ballotInOrder_of_noVotes attacks fun _ => List.not_mem_nil

/-! ## A sequence of votes -/

end Game

/-- A vote to end the attack: whose it is, and when it comes. -/
structure Ballot where
  voter : String
  now : Instant

/-- The command that a ballot is. -/
def Ballot.step (ballot : Ballot) : Step := .command ballot.voter .endAttack ballot.now

namespace Game

/-- A round that can be voted on: the game has been started, and there are cards on the table that
are all beaten. -/
structure Votable (game : Game) : Prop where
  started : game.started = true
  laid : game.table ≠ []
  beaten : ∀ entry ∈ game.table, entry.isBeaten = true

instance (game : Game) : Decidable game.Votable :=
  decidable_of_iff (game.started = true ∧ game.table ≠ [] ∧
      ∀ entry ∈ game.table, entry.isBeaten = true)
    ⟨fun ⟨started, laid, beaten⟩ => ⟨started, laid, beaten⟩,
      fun ⟨started, laid, beaten⟩ => ⟨started, laid, beaten⟩⟩

/-- A ballot that counts in the round: it is not the defender's, and comes before the attack timer
has run out. -/
structure Counts (game : Game) (ballot : Ballot) : Prop where
  other : ballot.voter ≠ game.defenderId
  inTime : game.timerExpired .attack ballot.now = false

instance (game : Game) (ballot : Ballot) : Decidable (game.Counts ballot) :=
  decidable_of_iff (ballot.voter ≠ game.defenderId ∧ game.timerExpired .attack ballot.now = false)
    ⟨fun ⟨other, inTime⟩ => ⟨other, inTime⟩, fun ⟨other, inTime⟩ => ⟨other, inTime⟩⟩

/-- Whether everybody but the defender has voted, some of them only now. -/
def AllVoted (game : Game) (ids : List String) : Prop :=
  ∀ voter ∈ game.voters, voter ∈ game.endVotes ∨ voter ∈ ids

instance (game : Game) (ids : List String) : Decidable (game.AllVoted ids) :=
  inferInstanceAs (Decidable (∀ voter ∈ game.voters, _))

/-- The game with some more votes, and nothing else changed. -/
def withVotes (game : Game) (ids : List String) : Game :=
  { game with endVotes := game.endVotes.insertAll ids }

/-- The game after some votes on a round: it is closed once everybody has voted. -/
def afterVotes (game : Game) (ids : List String) : Game :=
  if game.AllVoted ids then game.endRound.game else game.withVotes ids

theorem voteEnd_withVotes (game : Game) (ids : List String) (id : String) :
    (game.withVotes ids).voteEnd id = game.withVotes (ids ++ [id]) := by
  unfold withVotes voteEnd Voters.insertAll
  rw [List.foldl_append]
  rfl

/-- Who has voted plays no part in how the round is closed. -/
theorem endRound_withVotes (game : Game) (ids : List String) :
    (game.withVotes ids).endRound = game.endRound := by
  induction ids generalizing game with
  | nil => rfl
  | cons id ids hypothesis => exact (hypothesis (game.voteEnd id)).trans (endRound_voteEnd game id)

theorem everyoneEnds_withVotes (game : Game) (ids : List String) :
    (game.withVotes ids).everyoneEnds = true ↔ game.AllVoted ids := by
  rw [everyoneEnds_iff]
  constructor
  · intro every voter member
    obtain ⟨seated, other⟩ := mem_voters.mp member
    exact Voters.mem_insertAll.mp (every voter seated other)
  · intro every voter seated other
    exact Voters.mem_insertAll.mpr (every voter (mem_voters.mpr ⟨seated, other⟩))

variable {game : Game}

theorem AllVoted.mono {first second : List String} (all : game.AllVoted first)
    (fewer : ∀ id ∈ first, id ∈ second) : game.AllVoted second :=
  fun voter member => (all voter member).imp_right (fewer voter)

/-- The votes that are counted make a difference only as a set. -/
theorem afterVotes_congr (game : Game) {first second : List String}
    (same : ∀ id, id ∈ first ↔ id ∈ second) : game.afterVotes first = game.afterVotes second := by
  have all : game.AllVoted first ↔ game.AllVoted second :=
    ⟨fun all => all.mono fun id => (same id).mp, fun all => all.mono fun id => (same id).mpr⟩
  have votes : game.endVotes.insertAll first = game.endVotes.insertAll second :=
    Voters.ext_mem fun id => by rw [Voters.mem_insertAll, Voters.mem_insertAll, same]
  unfold afterVotes withVotes
  rw [votes]
  exact if_congr all rfl rfl

/-- On a clear table no vote is accepted. -/
theorem endAttack_of_clear {userId : String} {now : Instant} (clear : game.table = []) :
    (game.apply userId .endAttack now).violation = some .cannotEndAttackInFirstTurn ∧
      (game.apply userId .endAttack now).game = game := by
  have reported : game.endAttackViolation? userId now = some .cannotEndAttackInFirstTurn := by
    simp [endAttackViolation?, firstViolation, Check.tableNotEmpty, Violation.unless, clear]
  show (game.endAttack userId now).violation = _ ∧ (game.endAttack userId now).game = _
  rw [endAttack, reported]
  exact ⟨rfl, rfl⟩

/-- Before everybody has voted, a ballot that counts is permitted. -/
theorem endPermitted_withVotes (votable : game.Votable) {ballot : Ballot}
    (counts : game.Counts ballot) (ids : List String) :
    (game.withVotes ids).EndPermitted ballot.voter ballot.now :=
  ⟨votable.laid, votable.started, .inr counts.other, counts.inTime, votable.beaten⟩

/-- **What one more ballot does**: before everybody has voted it is accepted, and afterwards it is
rejected; either way the game is the one after all the votes. -/
theorem apply_afterVotes (votable : game.Votable) {ballot : Ballot} (counts : game.Counts ballot)
    (ids : List String) :
    (((game.afterVotes ids).apply ballot.voter .endAttack ballot.now).violation = none ↔
        ¬game.AllVoted ids) ∧
      ((game.afterVotes ids).apply ballot.voter .endAttack ballot.now).game =
        game.afterVotes (ids ++ [ballot.voter]) := by
  by_cases all : game.AllVoted ids
  · have still : game.AllVoted (ids ++ [ballot.voter]) :=
      all.mono fun id member => List.mem_append_left _ member
    have before : game.afterVotes ids = game.endRound.game := if_pos all
    have after : game.afterVotes (ids ++ [ballot.voter]) = game.endRound.game := if_pos still
    obtain ⟨rejected, left⟩ := @endAttack_of_clear (game.afterVotes ids) ballot.voter ballot.now
      (before ▸ table_endRound game)
    refine ⟨?_, left.trans (before.trans after.symm)⟩
    rw [rejected]
    simp [all]
  · have before : game.afterVotes ids = game.withVotes ids := if_neg all
    have permitted := endPermitted_withVotes votable counts ids
    have joined := everyoneEnds_withVotes game (ids ++ [ballot.voter])
    rw [← voteEnd_withVotes] at joined
    rw [before, iff_true_right all]
    by_cases everyone : game.AllVoted (ids ++ [ballot.voter])
    · obtain ⟨accepted, closed⟩ := apply_endRound permitted (joined.mpr everyone)
      rw [endRound_withVotes] at closed
      exact ⟨accepted, closed.trans (if_pos everyone).symm⟩
    · have waiting := Bool.eq_false_iff.mpr fun ends => everyone (joined.mp ends)
      obtain ⟨accepted, recorded⟩ := apply_vote permitted waiting
      rw [voteEnd_withVotes] at recorded
      exact ⟨accepted, recorded.trans (if_neg everyone).symm⟩

/-- A ballot closes the round exactly when it completes the vote. -/
theorem closesRound_afterVotes (votable : game.Votable) {ballot : Ballot}
    (counts : game.Counts ballot) (ids : List String) :
    (game.afterVotes ids).closesRound ballot.step = true ↔
      ¬game.AllVoted ids ∧ game.AllVoted (ids ++ [ballot.voter]) := by
  have accepted := (apply_afterVotes votable counts ids).1
  have unfolded : (game.afterVotes ids).closesRound ballot.step =
      (((game.afterVotes ids).apply ballot.voter .endAttack ballot.now).violation == none &&
        ((game.afterVotes ids).voteEnd ballot.voter).everyoneEnds) := rfl
  rw [unfolded, Bool.and_eq_true, beq_iff_eq, accepted]
  refine and_congr_right fun pending => ?_
  rw [afterVotes, if_neg pending, voteEnd_withVotes, everyoneEnds_withVotes]

/-- **What a sequence of votes does.** -/
theorem afterAll_ballots (votable : game.Votable) (pending : ¬game.AllVoted [])
    {ballots : List Ballot} (counts : ∀ ballot ∈ ballots, game.Counts ballot) :
    game.afterAll (ballots.map Ballot.step) = game.afterVotes (ballots.map Ballot.voter) := by
  induction ballots using List.reverseRecOn with
  | nil =>
    rw [List.map_nil, List.map_nil, afterVotes, if_neg pending]
    rfl
  | append_singleton ballots ballot hypothesis =>
    rw [List.forall_mem_append, List.forall_mem_singleton] at counts
    rw [List.map_append, List.map_append, afterAll_append, hypothesis counts.1]
    exact (apply_afterVotes votable counts.2 _).2

/-- A sequence of votes closes the round once, if everybody has voted, and otherwise not. -/
theorem countSteps_ballots (votable : game.Votable) (pending : ¬game.AllVoted [])
    {ballots : List Ballot} (counts : ∀ ballot ∈ ballots, game.Counts ballot) :
    countSteps closesRound game (ballots.map Ballot.step) =
      if game.AllVoted (ballots.map Ballot.voter) then 1 else 0 := by
  induction ballots using List.reverseRecOn with
  | nil => exact (if_neg pending).symm
  | append_singleton ballots ballot hypothesis =>
    rw [List.forall_mem_append, List.forall_mem_singleton] at counts
    have closes := closesRound_afterVotes votable counts.2 (ballots.map Ballot.voter)
    rw [List.map_append, List.map_append, countSteps_append, hypothesis counts.1,
      afterAll_ballots votable pending counts.1]
    show _ + (((game.afterVotes _).closesRound ballot.step).toNat + 0) = _
    by_cases before : game.AllVoted (ballots.map Ballot.voter)
    · have still : game.AllVoted (ballots.map Ballot.voter ++ [ballot.voter]) :=
        before.mono fun id member => List.mem_append_left _ member
      rw [if_pos before, Bool.eq_false_iff.mpr fun again => (closes.mp again).1 before]
      exact (if_pos still).symm
    · by_cases now_ : game.AllVoted (ballots.map Ballot.voter ++ [ballot.voter])
      · rw [if_neg before, closes.mpr ⟨before, now_⟩]
        exact (if_pos now_).symm
      · rw [if_neg before, Bool.eq_false_iff.mpr fun closed => now_ (closes.mp closed).2]
        exact (if_neg now_).symm

/-- **Votes on the end of an attack, in every game that a run from a deal reaches with commands from
its seats.**  Whoever has voted is seated and does not defend; somebody who does not defend has not
voted; and if there is a vote, the game has been started and the table has cards that are all
beaten.

When the game has been started and the table has cards that are all beaten, take any ballots, none
of them the defender's or too late.  A ballot closes the round exactly when everybody has voted with
it and not before.  Until then ballots are accepted, and change nothing but who has voted;
afterwards they are rejected, and change nothing.  The round is closed at most once, and the game
that results, events included, is decided by who has voted. -/
theorem votes_close_the_round_once {id : String} {entrants : List Entrant} {settings : Settings}
    {seed : UInt64} {dealt : Game} (isDealt : deal id entrants settings seed = .ok dealt)
    {steps : List Step} (fromSeats : ∀ step ∈ steps, step.FromSeatOf dealt) :
    let game := dealt.afterAll steps
    ((∀ voter ∈ game.endVotes, voter ∈ game.seatIds ∧ voter ≠ game.defenderId) ∧
      (∃ voter ∈ game.seatIds, voter ≠ game.defenderId ∧ voter ∉ game.endVotes) ∧
      ((∃ voter, voter ∈ game.endVotes) → game.Votable)) ∧
    (game.Votable → ∀ ballots : List Ballot, (∀ ballot ∈ ballots, game.Counts ballot) →
      (∀ before ballot after, ballots = before ++ ballot :: after →
        let earlier := before.map Ballot.voter
        let current := game.afterAll (before.map Ballot.step)
        let outcome := current.apply ballot.voter .endAttack ballot.now
        (current.closesRound ballot.step = true ↔
            ¬game.AllVoted earlier ∧ game.AllVoted (earlier ++ [ballot.voter])) ∧
          (¬game.AllVoted earlier → outcome.violation = none ∧
            current = { game with endVotes := game.endVotes.insertAll earlier }) ∧
          (game.AllVoted earlier → outcome.violation ≠ none ∧ outcome.game = current)) ∧
      countSteps closesRound game (ballots.map Ballot.step) =
        (if game.AllVoted (ballots.map Ballot.voter) then 1 else 0) ∧
      game.afterAll (ballots.map Ballot.step) =
        (if game.AllVoted (ballots.map Ballot.voter) then game.endRound.game
          else { game with endVotes := game.endVotes.insertAll (ballots.map Ballot.voter) }) ∧
      ∀ others : List Ballot, (∀ ballot ∈ others, game.Counts ballot) →
        (∀ voter, voter ∈ ballots.map Ballot.voter ↔ voter ∈ others.map Ballot.voter) →
          game.afterAll (ballots.map Ballot.step) = game.afterAll (others.map Ballot.step)) := by
  intro game
  obtain ⟨place, start⟩ := attacksFrom_of_deal isDealt
  have inOrder : game.BallotInOrder :=
    ballotInOrder_afterAll start (ballotInOrder_of_deal isDealt) fromSeats
  obtain ⟨waiting, isVoter, absent⟩ := inOrder.pending
  refine ⟨⟨fun voter voted => mem_voters.mp (inOrder.voters voter voted), ?_, ?_⟩,
    fun votable ballots counts => ?_⟩
  · obtain ⟨seated, other⟩ := mem_voters.mp isVoter
    exact ⟨waiting, seated, other, absent⟩
  · rintro ⟨voter, voted⟩
    obtain ⟨started, laid, beaten⟩ := inOrder.settled voter voted
    exact ⟨started, laid, beaten⟩
  have pending : ¬game.AllVoted [] := fun all =>
    (all waiting isVoter).elim absent List.not_mem_nil
  refine ⟨fun before ballot after split => ?_, countSteps_ballots votable pending counts,
    afterAll_ballots votable pending counts, fun others alsoCount same => ?_⟩
  · intro earlier current outcome
    rw [split, List.forall_mem_append, List.forall_mem_cons] at counts
    have now_ : current = game.afterVotes earlier := afterAll_ballots votable pending counts.1
    obtain ⟨accepted, after_⟩ := apply_afterVotes votable counts.2.1 earlier
    rw [← now_] at accepted after_
    refine ⟨?_, fun open_ => ⟨accepted.mpr open_, now_.trans (if_neg open_)⟩,
      fun all => ⟨fun none_ => accepted.mp none_ all, ?_⟩⟩
    · rw [now_]
      exact closesRound_afterVotes votable counts.2.1 earlier
    · have still : game.AllVoted (earlier ++ [ballot.voter]) :=
        all.mono fun id member => List.mem_append_left _ member
      exact after_.trans ((if_pos still).trans ((if_pos all).symm.trans now_.symm))
  · rw [afterAll_ballots votable pending counts, afterAll_ballots votable pending alsoCount]
    exact afterVotes_congr game same

/-- A run in which three players get ready, the first attacker lays a card, and it is beaten. -/
def beatenSix : List Step := [
  .command "a" .ready (.ofUnixSeconds 0), .command "b" .ready (.ofUnixSeconds 0),
  .command "c" .ready (.ofUnixSeconds 0),
  .command "a" (.attack ⟨.diamonds, .six⟩) (.ofUnixSeconds 1),
  .command "b" (.defend ⟨.diamonds, .six⟩ ⟨.diamonds, .ten⟩) (.ofUnixSeconds 2), .handOut]

/-- Of three players one votes twice, then the attacker votes, and a late vote follows: the round is
closed once, as it is by two votes the other way around. -/
theorem votes_close_the_round_once_among_three :
    deal "g" [⟨"a", ""⟩, ⟨"b", ""⟩, ⟨"c", ""⟩] ⟨Double.ofInt 30⟩ 0 = .ok trio ∧
      let game := trio.afterAll beatenSix
      let ballots : List Ballot := [⟨"c", .ofUnixSeconds 3⟩, ⟨"c", .ofUnixSeconds 4⟩,
        ⟨"a", .ofUnixSeconds 5⟩, ⟨"c", .ofUnixSeconds 6⟩]
      countSteps closesRound game (ballots.map Ballot.step) = 1 ∧
        game.afterAll (ballots.map Ballot.step) = game.endRound.game ∧
        game.afterAll (ballots.map Ballot.step) = game.afterAll
          (([⟨"a", .ofUnixSeconds 9⟩, ⟨"c", .ofUnixSeconds 7⟩] : List Ballot).map Ballot.step) := by
  have sameVoters : ∀ voter : String,
      voter ∈ ["c", "c", "a", "c"] ↔ voter ∈ ["a", "c"] := by
    intro voter
    simp only [List.mem_cons, List.not_mem_nil, or_false]
    tauto
  refine ⟨deal_trio, ?_⟩
  intro game ballots
  obtain ⟨-, round⟩ := @votes_close_the_round_once _ _ _ _ _ deal_trio beatenSix (by decide +kernel)
  obtain ⟨-, once, closed, orderless⟩ := round (by decide +kernel) ballots (by decide +kernel)
  have all : game.AllVoted (ballots.map Ballot.voter) := by decide +kernel
  exact ⟨once.trans (if_pos all), closed.trans (if_pos all),
    orderless _ (by decide +kernel) sameVoters⟩

end Game

end Durak
