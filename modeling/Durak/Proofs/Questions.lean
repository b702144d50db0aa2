import Durak.Proofs.Advance
import Durak.Proofs.Timers

/-!
# Asking how the timers stand

Time passes by itself, but a round does not: that a timer has run out shows only when somebody asks.
Such a question is always answered in a game that has started, by the state of the timer asked for
(`after_question`).  A question that comes too late for its timer first closes the round.

Closing a round stops both timers, so no later question finds one that has run out, whichever timer
is asked for and whatever the asker's clock shows.  Up to then a question changes nothing but the
events, and the events play no part in whether a timer has run out (`timerExpired_congr`) or in how
the round is closed (`resolveRound_congr`).  Whatever is asked, in whatever order, the game is
therefore the one before the questions, or that game with its round closed
(`withoutEvents_afterAll_questions`).
-/

set_option autoImplicit false

namespace Durak

/-- The action that asks how a timer stands. -/
def TimerKind.question : TimerKind → Action
  | attack => .checkAttackTimer
  | defend => .checkDefendTimer

theorem TimerKind.timer?_question (kind : TimerKind) : kind.question.timer? = some kind := by
  cases kind <;> rfl

/-- A question of a user, asked at an instant, how one of the timers stands. -/
structure Question where
  asker : String
  kind : TimerKind
  now : Instant

/-- The step of a run that a question is. -/
def Question.step (question : Question) : Step :=
  .command question.asker question.kind.question question.now

/-- Whether the timer that is asked for has run out in a game when the question comes. -/
def Question.isLate (question : Question) (game : Game) : Bool :=
  game.timerExpired question.kind question.now

namespace Game

variable {game one other : Game}

/-! ## What the events play no part in -/

theorem timer_congr (same : one.withoutEvents = other.withoutEvents) (kind : TimerKind) :
    one.timer kind = other.timer kind := by
  rw [← timer_withoutEvents one, same, timer_withoutEvents]

theorem timerExpired_congr (same : one.withoutEvents = other.withoutEvents) (kind : TimerKind)
    (now : Instant) : one.timerExpired kind now = other.timerExpired kind now := by
  have settings : one.settings = other.settings := by injection same
  rw [timerExpired, timerExpired, timer_congr same, settings]

theorem Resting.of_withoutEvents (rests : one.Resting)
    (same : one.withoutEvents = other.withoutEvents) : other.Resting := by
  have started : one.started = other.started := by injection same
  have table : one.table = other.table := by injection same
  exact rests.congr started.symm table.symm (timer_congr same .attack).symm
    (timer_congr same .defend).symm

theorem replenish_withoutEvents (game : Game) (id : String) :
    game.withoutEvents.replenish id = (game.replenish id).withoutEvents := by
  have seat : game.withoutEvents.player? id = game.player? id := rfl
  unfold replenish
  rw [seat]
  split <;> rfl

theorem replenishAll_withoutEvents (game : Game) :
    game.withoutEvents.replenishAll = game.replenishAll.withoutEvents :=
  List.foldl_hom withoutEvents fun game id => replenish_withoutEvents game id

theorem switchRoles_withoutEvents (game : Game) :
    game.withoutEvents.switchRoles = game.switchRoles.withoutEvents := by
  have next : game.withoutEvents.nextSeat? game.withoutEvents.defenderId =
      game.nextSeat? game.defenderId := rfl
  unfold switchRoles
  rw [next]
  split <;> rfl

/-- Clearing the table keeps the events and does not read them. -/
theorem withoutEvents_clearTable (game : Game) (event : Event) :
    (game.withoutEvents.clearTable.pushEvent event).withoutEvents =
      (game.clearTable.pushEvent event).withoutEvents := rfl

/-- A round closes alike whatever events wait to be handed out. -/
theorem resolveRound_congr (same : one.withoutEvents = other.withoutEvents) :
    (one.resolveRound true).withoutEvents = (other.resolveRound true).withoutEvents := by
  have closed : ∀ game : Game, (game.withoutEvents.resolveRound true).withoutEvents =
      (game.resolveRound true).withoutEvents := by
    intro game
    have filled : game.withoutEvents.filled true = (game.filled true).withoutEvents := by
      simp only [Game.filled, if_true, replenishAll_withoutEvents, switchRoles_withoutEvents]
    rw [resolveRound_eq, resolveRound_eq, filled, withoutEvents_clearTable]
  rw [← closed one, same, closed other]

/-! ## One question -/

/-- **A question is accepted, and answered by the state of the timer.**  If it comes too late the
round closes first. -/
theorem after_question (started : game.started = true) (question : Question) :
    (game.apply question.asker question.kind.question question.now).violation = none ∧
      game.after question.step =
        (if question.isLate game then game.resolveRound true else game).announceTimer
          question.kind := by
  obtain ⟨asker, kind, now⟩ := question
  have asked : game.act asker kind.question now = game.checkTimer kind now := by cases kind <;> rfl
  have inPlay : Check.gameStarted game = none := by rw [Check.gameStarted, started]; rfl
  simp only [Question.isLate, Question.step, after, apply, asked, checkTimer, inPlay]
  by_cases expired : game.timerExpired kind now = true
  · simp only [expired, if_true]
    exact ⟨rfl, rfl⟩
  · simp only [expired, Bool.false_eq_true, if_false]
    exact ⟨rfl, rfl⟩

/-- An announcement changes the events only. -/
theorem withoutEvents_announceTimer (game : Game) (kind : TimerKind) :
    (game.announceTimer kind).withoutEvents = game.withoutEvents := rfl

theorem timer_announceTimer (game : Game) (kind shown : TimerKind) :
    (game.announceTimer kind).timer shown = game.timer shown := by cases shown <;> rfl

theorem events_announceTimer (game : Game) (kind : TimerKind) :
    (game.announceTimer kind).events = game.events ++
      [.timerState kind (!(game.timer kind).running)
        ((game.timer kind).endsAt? game.settings.turnTimeoutSeconds)] := rfl

theorem withoutEvents_after_question (started : game.started = true) (question : Question) :
    (game.after question.step).withoutEvents =
      (if question.isLate game then game.resolveRound true else game).withoutEvents := by
  rw [(after_question started question).2, withoutEvents_announceTimer]

/-- A question that comes too late is what closes the round. -/
theorem closesRound_question (started : game.started = true) (question : Question) :
    game.closesRound question.step = question.isLate game := by
  obtain ⟨closes, -⟩ :=
    game.closesRound_timer question.kind.timer?_question question.asker question.now
  rw [Question.step, closes, started, Bool.true_and]
  rfl

/-- What a question appends: the close of the round, if it comes too late, and the state that its
timer has then. -/
theorem events_after_question (started : game.started = true) (question : Question) :
    (game.after question.step).events = game.events ++
      (if question.isLate game then [.endAttack] else []) ++
      [.timerState question.kind (!((game.after question.step).timer question.kind).running)
        (((game.after question.step).timer question.kind).endsAt?
          game.settings.turnTimeoutSeconds)] := by
  rw [(after_question started question).2, events_announceTimer, timer_announceTimer]
  cases question.isLate game with
  | false => simp only [Bool.false_eq_true, if_false, List.append_nil]
  | true =>
    have settings : (game.resolveRound true).settings = game.settings :=
      settings_eq_of_terms (terms_resolveRound game true)
    simp only [if_true, events_resolveRound, settings]

/-! ## Any questions -/

/-- Whether one of some questions comes too late for its timer. -/
def someLate (game : Game) (questions : List Question) : Bool :=
  questions.any fun question => question.isLate game

theorem someLate_append_singleton (game : Game) (questions : List Question) (question : Question) :
    game.someLate (questions ++ [question]) =
      (game.someLate questions || question.isLate game) := by
  rw [someLate, List.any_append, List.any_cons, List.any_nil, Bool.or_false]
  rfl

/-- What some questions make of a game, but for the events: the game itself, or the game with its
round closed. -/
def asked (game : Game) (questions : List Question) : Game :=
  if game.someLate questions then game.resolveRound true else game

/-- Once a question has come too late, the timers are stopped. -/
theorem resting_of_asked (started : game.started = true) {questions : List Question}
    (late : game.someLate questions = true)
    (same : one.withoutEvents = (game.asked questions).withoutEvents) : one.Resting := by
  rw [asked, late, if_pos rfl] at same
  exact (resting_resolveRound started true).of_withoutEvents same.symm

/-- In a game that some questions have led to, a question comes too late if none of them did and it
would have come too late before. -/
theorem isLate_of_asked (started : game.started = true) {questions : List Question}
    (same : one.withoutEvents = (game.asked questions).withoutEvents) (question : Question) :
    question.isLate one = (!game.someLate questions && question.isLate game) := by
  cases closed : game.someLate questions with
  | false =>
    rw [asked, closed, if_neg Bool.false_ne_true] at same
    exact timerExpired_congr same question.kind question.now
  | true => exact (resting_of_asked started closed same).notExpired question.kind question.now

/-- **Whatever is asked, the game stays as it is, or its round is closed once.** -/
theorem withoutEvents_afterAll_questions (started : game.started = true)
    (questions : List Question) :
    (game.afterAll (questions.map Question.step)).withoutEvents =
      (game.asked questions).withoutEvents := by
  -- from the end, since the last question meets the game that the others have led to
  induction questions using List.reverseRecOn with
  | nil => rfl
  | append_singleton questions question hypothesis =>
    have inPlay := started_afterAll started (questions.map Question.step)
    rw [List.map_append, List.map_singleton, afterAll_append, afterAll_cons, afterAll_nil,
      withoutEvents_after_question inPlay, isLate_of_asked started hypothesis]
    unfold asked at hypothesis ⊢
    rw [someLate_append_singleton]
    cases closed : game.someLate questions with
    | true =>
      rw [closed] at hypothesis
      exact hypothesis
    | false =>
      rw [closed, if_neg Bool.false_ne_true] at hypothesis
      cases question.isLate game with
      | false => exact hypothesis
      | true => exact resolveRound_congr hypothesis

/-- After some questions, a question comes too late if none before it did and it would have come too
late then. -/
theorem isLate_afterAll (started : game.started = true) (before : List Question)
    (question : Question) :
    question.isLate (game.afterAll (before.map Question.step)) =
      (!game.someLate before && question.isLate game) :=
  isLate_of_asked started (withoutEvents_afterAll_questions started before) question

/-- However many questions come too late, the first of them closes the round and no other does. -/
theorem countSteps_questions (started : game.started = true) (questions : List Question) :
    countSteps closesRound game (questions.map Question.step) =
      if game.someLate questions then 1 else 0 := by
  induction questions using List.reverseRecOn with
  | nil => rfl
  | append_singleton questions question hypothesis =>
    have inPlay := started_afterAll started (questions.map Question.step)
    rw [List.map_append, List.map_singleton, countSteps_append, hypothesis, countSteps, countSteps,
      closesRound_question inPlay, isLate_afterAll started, someLate_append_singleton]
    cases game.someLate questions <;> cases question.isLate game <;> rfl

/-- **Time closes a round once.**  Take a game that has started, and any questions about its timers,
of anybody, at any instants and in any order.  The round is closed at most once, by the first
question whose own timer has run out.  Every question is accepted, and its last event is the state
of the timer that it leaves: completed if that timer is stopped, with the sum of start and timeout
as the deadline if it runs and the sum is in the calendar, and without one otherwise.  Before the
close and after it a question changes the events only, and from the close on both timers are
reported as completed. -/
theorem time_closes_a_round_once (started : game.started = true) (questions : List Question) :
    countSteps closesRound game (questions.map Question.step) =
        (if game.someLate questions then 1 else 0) ∧
      ∀ before question after, questions = before ++ question :: after →
        let current := game.afterAll (before.map Question.step)
        let outcome := current.apply question.asker question.kind.question question.now
        outcome.violation = none ∧
        current.closesRound question.step = (!game.someLate before && question.isLate game) ∧
        current.withoutEvents = (game.asked before).withoutEvents ∧
        outcome.game.withoutEvents = (game.asked (before ++ [question])).withoutEvents ∧
        ∃ completed endsAt,
          outcome.game.events = current.events ++
            (if !game.someLate before && question.isLate game then [.endAttack] else []) ++
            [.timerState question.kind completed endsAt] ∧
          (completed = true ↔ (outcome.game.timer question.kind).running = false) ∧
          (∀ deadline, endsAt = some deadline ↔
            ∃ startedAt length, outcome.game.timer question.kind = .startedNow startedAt ∧
              game.settings.turnTimeoutSeconds.nanoseconds? = some length ∧
              startedAt.later? length = some deadline) ∧
          (game.someLate (before ++ [question]) = true → completed = true ∧ endsAt = none) := by
  refine ⟨countSteps_questions started questions, ?_⟩
  intro before question after split current outcome
  have inPlay : current.started = true := started_afterAll started _
  have isLate : question.isLate current = (!game.someLate before && question.isLate game) :=
    isLate_afterAll started before question
  have settings : current.settings = game.settings := settings_eq_of_terms (terms_afterAll game _)
  have accepted : outcome.violation = none := (after_question inPlay question).1
  have closing : current.closesRound question.step =
      (!game.someLate before && question.isLate game) :=
    (closesRound_question inPlay question).trans isLate
  have left : outcome.game.withoutEvents = (game.asked (before ++ [question])).withoutEvents := by
    have asked := withoutEvents_afterAll_questions started (before ++ [question])
    rwa [List.map_append, afterAll_append] at asked
  refine ⟨accepted, closing, withoutEvents_afterAll_questions started before, left,
    !(outcome.game.timer question.kind).running,
    (outcome.game.timer question.kind).endsAt? game.settings.turnTimeoutSeconds, ?_, ?_, ?_, ?_⟩
  · have events := events_after_question inPlay question
    rwa [isLate, settings] at events
  · rw [Bool.not_eq_true']
  · intro deadline
    exact Timer.endsAt?_eq_some_iff
  · intro isClosed
    have rests : outcome.game.Resting := resting_of_asked started isClosed left
    rw [rests.timers question.kind]
    exact ⟨rfl, rfl⟩

/-- Three questions about a game in which the first card lies.  The first is in time, the second
comes when the attack timer has run out, and the third when both would have. -/
def threeQuestions : List Question := [
  ⟨"c", .defend, .ofUnixSeconds 20⟩, ⟨"b", .attack, .ofUnixSeconds 30⟩,
  ⟨"a", .defend, .ofUnixSeconds 40⟩]

/-- The second question closes the round, and the third is told that the other timer is stopped. -/
theorem time_closes_a_round_once_of_three_questions :
    let game := trio.afterAll laidSix
    let current := game.afterAll (threeQuestions.take 2 |>.map Question.step)
    let outcome := current.apply "a" .checkDefendTimer (.ofUnixSeconds 40)
    game.timerExpired .defend (.ofUnixSeconds 40) = true ∧
      countSteps closesRound game (threeQuestions.map Question.step) = 1 ∧
      outcome.violation = none ∧
      outcome.game.withoutEvents = (game.resolveRound true).withoutEvents ∧
      outcome.game.events = current.events ++ [.timerState .defend true none] := by
  intro game
  have started : game.started = true := by decide +kernel
  have first : game.timerExpired .defend (.ofUnixSeconds 20) = false := by decide +kernel
  have second : game.timerExpired .attack (.ofUnixSeconds 30) = true := by decide +kernel
  have third : game.timerExpired .defend (.ofUnixSeconds 40) = true := by decide +kernel
  have earlier : game.someLate (threeQuestions.take 2) = true := by
    simp only [someLate, threeQuestions, List.take, List.any, Question.isLate, first, second,
      Bool.or_false, Bool.false_or]
  have together : game.someLate threeQuestions = true :=
    (someLate_append_singleton game (threeQuestions.take 2) _).trans (by rw [earlier]; rfl)
  obtain ⟨once, each⟩ := time_closes_a_round_once started threeQuestions
  obtain ⟨accepted, -, -, left, completed, endsAt, events, -, -, closed⟩ :=
    each (threeQuestions.take 2) ⟨"a", .defend, .ofUnixSeconds 40⟩ [] rfl
  obtain ⟨rfl, rfl⟩ := closed together
  rw [together, if_pos rfl] at once
  rw [asked, show threeQuestions.take 2 ++ [_] = threeQuestions from rfl, together,
    if_pos rfl] at left
  rw [earlier, Bool.not_true, Bool.false_and, if_neg Bool.false_ne_true, List.append_nil] at events
  dsimp only [TimerKind.question] at accepted left events
  exact ⟨third, once, accepted, left, events⟩

end Game

end Durak
