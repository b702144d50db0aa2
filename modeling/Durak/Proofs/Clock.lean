import Durak.Proofs.Timers

/-!
# What the clock decides

A command is carried out at an instant, and the instant is used in two ways.  The checks ask whether
one of the two timers has run out by then, and a timer that the command starts remembers it.
Nothing else sees the clock: when both timers stand alike at two instants (`SameExpiry`), every
chain of checks reports the same, so the command comes out the same but for the timers
(`agrees_apply`), and these differ only in when they were started.

A timer has run out from its start plus the turn timeout on, and then for good (`timerExpired_iff`,
`timerExpired_of_le`).
-/

set_option autoImplicit false

namespace Durak

namespace Game

/-- The game without what its timers show. -/
def timeless (game : Game) : Game := { game with attackTimer := .stopped, defendTimer := .stopped }

section Timeless

variable {one other : Game}

theorem started_of_timeless (same : one.timeless = other.timeless) :
    one.started = other.started := by
  injection same

theorem events_of_timeless (same : one.timeless = other.timeless) : one.events = other.events := by
  injection same

/-- Whether the attacker is waited for is seen without the timers. -/
theorem awaitsAttack_of_timeless (same : one.timeless = other.timeless) :
    one.awaitsAttack = other.awaitsAttack := by
  have awaits : one.timeless.awaitsAttack = other.timeless.awaitsAttack :=
    congrArg Game.awaitsAttack same
  exact awaits

/-- Two games that agree without their timers are the same once the timers are. -/
theorem eq_of_timeless (same : one.timeless = other.timeless) :
    { one with attackTimer := other.attackTimer, defendTimer := other.defendTimer } = other :=
  congrArg (fun game => { game with
    attackTimer := other.attackTimer
    defendTimer := other.defendTimer }) same

end Timeless

/-- Both timers stand alike at two instants: each has run out at both or at neither. -/
def SameExpiry (game : Game) (first second : Instant) : Prop :=
  ∀ kind, game.timerExpired kind first = game.timerExpired kind second

instance (game : Game) (first second : Instant) : Decidable (game.SameExpiry first second) :=
  decidable_of_iff
    (game.timerExpired .attack first = game.timerExpired .attack second ∧
      game.timerExpired .defend first = game.timerExpired .defend second)
    ⟨fun ⟨attack, defend⟩ kind => by cases kind <;> assumption,
      fun same => ⟨same .attack, same .defend⟩⟩

end Game

/-- Two outcomes agree on everything but what the timers show. -/
structure Outcome.Agrees (first second : Outcome) : Prop where
  violation : first.violation = second.violation
  log : first.log = second.log
  game : first.game.timeless = second.game.timeless

theorem Outcome.Agrees.of_eq {first second : Outcome} (same : first = second) :
    first.Agrees second := by
  rw [same]
  exact ⟨rfl, rfl, rfl⟩

namespace Game

variable {game : Game} {first second : Instant}

/-! ## The checks -/

theorem attackTimeLeft_congr (same : game.SameExpiry first second) :
    Check.attackTimeLeft game first = Check.attackTimeLeft game second := by
  have expiry : game.attackTimer.expired game.settings.turnTimeoutSeconds first =
      game.attackTimer.expired game.settings.turnTimeoutSeconds second := same .attack
  rw [Check.attackTimeLeft, Check.attackTimeLeft, expiry]

theorem defendTimeLeft_congr (same : game.SameExpiry first second) :
    Check.defendTimeLeft game first = Check.defendTimeLeft game second := by
  have expiry : game.defendTimer.expired game.settings.turnTimeoutSeconds first =
      game.defendTimer.expired game.settings.turnTimeoutSeconds second := same .defend
  rw [Check.defendTimeLeft, Check.defendTimeLeft, expiry]

theorem attackViolation?_congr (same : game.SameExpiry first second) (userId : String)
    (card : Card) :
    game.attackViolation? userId card first = game.attackViolation? userId card second := by
  rw [attackViolation?, attackViolation?, attackTimeLeft_congr same]

theorem defendViolation?_congr (same : game.SameExpiry first second) (userId : String)
    (target card : Card) :
    game.defendViolation? userId target card first =
      game.defendViolation? userId target card second := by
  rw [defendViolation?, defendViolation?, defendTimeLeft_congr same]

theorem endAttackViolation?_congr (same : game.SameExpiry first second) (userId : String) :
    game.endAttackViolation? userId first = game.endAttackViolation? userId second := by
  rw [endAttackViolation?, endAttackViolation?, attackTimeLeft_congr same]

/-! ## The commands -/

/-- Getting ready asks for no time; only the timer that starts with the game shows it. -/
theorem agrees_ready (game : Game) (userId : String) (first second : Instant) :
    (game.ready userId first).Agrees (game.ready userId second) := by
  unfold ready
  split
  · exact .of_eq rfl
  · simp only
    split
    · exact ⟨rfl, rfl, rfl⟩
    · exact .of_eq rfl

theorem agrees_attack (same : game.SameExpiry first second) (userId : String) (card : Card) :
    (game.attack userId card first).Agrees (game.attack userId card second) := by
  unfold attack
  rw [attackViolation?_congr same]
  split
  · exact .of_eq rfl
  · exact .of_eq rfl
  · split
    · exact ⟨rfl, rfl, rfl⟩
    · exact .of_eq rfl

/-- A cover that is laid shows the clock at most in the attack timer. -/
theorem timeless_layCover (game : Game) (userId : String) (target card : Card)
    (first second : Instant) :
    (game.layCover userId target card first).timeless =
      (game.layCover userId target card second).timeless := by
  unfold layCover
  simp only
  split <;> rfl

theorem agrees_defend (same : game.SameExpiry first second) (userId : String)
    (target card : Card) :
    (game.defend userId target card first).Agrees (game.defend userId target card second) := by
  unfold defend
  rw [defendViolation?_congr same]
  split
  · exact .of_eq rfl
  · exact .of_eq rfl
  · split
    · split
      · exact ⟨rfl, rfl, timeless_layCover _ userId target card first second⟩
      · exact .of_eq rfl
    · exact .of_eq rfl

theorem agrees_endAttack (same : game.SameExpiry first second) (userId : String) :
    (game.endAttack userId first).Agrees (game.endAttack userId second) := by
  unfold endAttack
  rw [endAttackViolation?_congr same]
  exact .of_eq rfl

theorem agrees_checkTimer (same : game.SameExpiry first second) (kind : TimerKind) :
    (game.checkTimer kind first).Agrees (game.checkTimer kind second) := by
  unfold checkTimer
  rw [same kind]
  exact .of_eq rfl

/-- **At instants at which both timers stand alike, a command comes out the same but for the
timers.** -/
theorem agrees_apply (same : game.SameExpiry first second) (userId : String) (action : Action) :
    (game.apply userId action first).Agrees (game.apply userId action second) := by
  have acts : (game.act userId action first).Agrees (game.act userId action second) := by
    cases action with
    | ready => exact agrees_ready game userId first second
    | attack card => exact agrees_attack same userId card
    | defend target card => exact agrees_defend same userId target card
    | endAttack => exact agrees_endAttack same userId
    | takeAllCards => exact .of_eq rfl
    | checkAttackTimer => exact agrees_checkTimer same .attack
    | checkDefendTimer => exact agrees_checkTimer same .defend
    | unregistered name => exact .of_eq rfl
  exact ⟨acts.violation, congrArg (game.actionRecord userId action :: ·) acts.log, acts.game⟩

/-! ## The timers -/

/-- At instants at which both timers stand alike, a command starts the same timers. -/
theorem startsTimer_congr (same : game.SameExpiry first second) (userId : String)
    (action : Action) (kind : TimerKind) :
    game.startsTimer kind (.command userId action first) =
      game.startsTimer kind (.command userId action second) := by
  obtain ⟨violation, -, after⟩ := agrees_apply same userId action
  have started := started_of_timeless after
  have awaits := awaitsAttack_of_timeless after
  cases kind with
  | attack => cases action <;> simp only [startsTimer, started, awaits, violation]
  | defend => cases action <;> simp only [startsTimer, laysCard, violation]

/-- At instants at which both timers stand alike, a command closes the round or does not. -/
theorem endsRound_congr (same : game.SameExpiry first second) (userId : String)
    (action : Action) :
    game.endsRound (.command userId action first) =
      game.endsRound (.command userId action second) := by
  have violation := (agrees_apply same userId action).violation
  have attack := same .attack
  have defend := same .defend
  cases action <;> simp only [endsRound, closesRound, takesCards, violation, attack, defend]

/-- What closes the round starts no timer. -/
theorem startsTimer_of_endsRound {userId : String} {action : Action} {now : Instant}
    (ends : game.endsRound (.command userId action now) = true) (kind : TimerKind) :
    game.startsTimer kind (.command userId action now) = false := by
  cases kind with
  | attack =>
    cases action with
    | ready | defend => cases ends
    | _ => rfl
  | defend =>
    cases action with
    | attack card =>
      have late : (game.apply userId (.attack card) now).violation = some .attackTimeOver := by
        simpa [endsRound, closesRound, takesCards] using ends
      rw [startsTimer, laysCard, late]
      rfl
    | _ => rfl

/-- A timer that a command starts shows its instant. -/
theorem timer_of_starts {userId : String} {action : Action} {now : Instant} {kind : TimerKind}
    (starts : game.startsTimer kind (.command userId action now) = true) :
    (game.apply userId action now).game.timer kind = .startedNow now := by
  have goesOn : game.endsRound (.command userId action now) = false := by
    by_contra ends
    cases starts.symm.trans (startsTimer_of_endsRound (Bool.eq_true_of_not_eq_false ends) kind)
  rw [(game.timerMove_apply userId action now).timer kind, goesOn, starts]
  rfl

/-- A timer that a command does not start is left to itself, or stopped. -/
theorem timer_of_not_starts {userId : String} {action : Action} {now : Instant} {kind : TimerKind}
    (startsNot : game.startsTimer kind (.command userId action now) = false) :
    (game.apply userId action now).game.timer kind =
      if game.endsRound (.command userId action now) then .stopped else game.timer kind := by
  rw [(game.timerMove_apply userId action now).timer kind, startsNot]
  rfl

/-! ## Running out -/

/-- A timer has run out exactly when it runs, its deadline is in the calendar, and the turn timeout
has passed since its start. -/
theorem timerExpired_iff {kind : TimerKind} {now : Instant} :
    game.timerExpired kind now = true ↔
      ∃ startedAt length deadline, game.timer kind = .startedNow startedAt ∧
        game.settings.turnTimeoutSeconds.nanoseconds? = some length ∧
        startedAt.later? length = some deadline ∧
        startedAt.absolute + length ≤ now.absolute := by
  constructor
  · intro expired
    rw [timerExpired, Timer.expired] at expired
    split at expired
    · rename_i deadline ends
      obtain ⟨startedAt, length, isStarted, hasLength, sum⟩ := Timer.endsAt?_eq_some_iff.mp ends
      refine ⟨startedAt, length, deadline, isStarted, hasLength, sum, ?_⟩
      rw [← Instant.absolute_later? sum]
      exact of_decide_eq_true expired
    · cases expired
  · rintro ⟨startedAt, length, deadline, isStarted, hasLength, sum, passed⟩
    have ends : (game.timer kind).endsAt? game.settings.turnTimeoutSeconds = some deadline :=
      Timer.endsAt?_eq_some_iff.mpr ⟨startedAt, length, isStarted, hasLength, sum⟩
    rw [timerExpired, Timer.expired, ends, decide_eq_true_eq, Instant.le_def,
      Instant.absolute_later? sum]
    exact passed

theorem timerExpired_of_le {kind : TimerKind} {now later : Instant}
    (expired : game.timerExpired kind now = true) (after : now ≤ later) :
    game.timerExpired kind later = true :=
  Timer.expired_of_le expired after

/-- **The clock matters only through expiry.**  Take any game whatsoever.  At two instants at which
each timer has run out or has not, a command of anybody gets the same verdict, announces the same,
and leaves the same game but for the timers that it starts, which show the instant at which it came.
And a timer that has run out stays so: it has run out exactly from its start plus the turn timeout
on. -/
theorem clock_matters_only_through_expiry (game : Game) :
    (∀ (userId : String) (action : Action) (first second : Instant), game.SameExpiry first second →
      let one := game.apply userId action first
      let other := game.apply userId action second
      one.violation = other.violation ∧ one.log = other.log ∧
      game.occurred userId action first = game.occurred userId action second ∧
      { one.game with
        attackTimer := other.game.attackTimer
        defendTimer := other.game.defendTimer } = other.game ∧
      ∀ kind,
        let starts := game.startsTimer kind (.command userId action first)
        game.startsTimer kind (.command userId action second) = starts ∧
        (starts = true → one.game.timer kind = .startedNow first ∧
          other.game.timer kind = .startedNow second) ∧
        (starts = false → one.game.timer kind = other.game.timer kind)) ∧
    (∀ kind now later, game.timerExpired kind now = true → now ≤ later →
      game.timerExpired kind later = true) ∧
    ∀ kind now, game.timerExpired kind now = true ↔
      ∃ startedAt length deadline, game.timer kind = .startedNow startedAt ∧
        game.settings.turnTimeoutSeconds.nanoseconds? = some length ∧
        startedAt.later? length = some deadline ∧
        startedAt.absolute + length ≤ now.absolute := by
  refine ⟨?_, fun kind now later expired after => timerExpired_of_le expired after,
    fun kind now => timerExpired_iff⟩
  intro userId action first second same one other
  obtain ⟨violation, log, after⟩ := agrees_apply same userId action
  have whole := eq_of_timeless after
  have events : one.game.events = other.game.events := events_of_timeless after
  refine ⟨violation, log, ?_, whole, fun kind => ?_⟩
  · exact congrArg (List.drop game.events.length) events
  · intro starts
    have alike := startsTimer_congr same userId action kind
    refine ⟨alike.symm, fun isStarted => ?_, fun isKept => ?_⟩
    · exact ⟨timer_of_starts isStarted, timer_of_starts (alike.symm.trans isStarted)⟩
    · have ends := endsRound_congr same userId action
      rw [timer_of_not_starts isKept, timer_of_not_starts (alike.symm.trans isKept), ends]

/-- Three players have got ready at the start of 1970. -/
def justReady : List Step := [
  .command "a" .ready (.ofUnixSeconds 0), .command "b" .ready (.ofUnixSeconds 0),
  .command "c" .ready (.ofUnixSeconds 0)]

/-- Whether the first attack comes after ten seconds or after twenty shows only in the defend timer,
which it starts. -/
theorem clock_matters_only_through_expiry_of_an_attack :
    let game := trio.afterAll justReady
    let early := game.apply "a" (.attack ⟨.diamonds, .six⟩) (.ofUnixSeconds 10)
    let late := game.apply "a" (.attack ⟨.diamonds, .six⟩) (.ofUnixSeconds 20)
    game.SameExpiry (.ofUnixSeconds 10) (.ofUnixSeconds 20) ∧ early.violation = none ∧
      early.violation = late.violation ∧
      early.game.defendTimer = .startedNow (.ofUnixSeconds 10) ∧
      late.game.defendTimer = .startedNow (.ofUnixSeconds 20) ∧
      { early.game with defendTimer := late.game.defendTimer } = late.game := by
  intro game early late
  have same : game.SameExpiry (.ofUnixSeconds 10) (.ofUnixSeconds 20) := by decide +kernel
  obtain ⟨violation, -, -, whole, timers⟩ := (clock_matters_only_through_expiry game).1 "a"
    (.attack ⟨.diamonds, .six⟩) (.ofUnixSeconds 10) (.ofUnixSeconds 20) same
  obtain ⟨defendEarly, defendLate⟩ := (timers .defend).2.1 (by decide +kernel)
  have attack : early.game.attackTimer = late.game.attackTimer := (timers .attack).2.2 rfl
  refine ⟨same, by decide +kernel, violation, defendEarly, defendLate, ?_⟩
  rw [← attack] at whole
  exact whole

end Game

end Durak
