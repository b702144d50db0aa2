import Durak.Calendar.Instant

/-!
# Timers

A timer only remembers when it was started.  Nothing happens by itself when its time is up: whether
it has expired is asked with the clock of whoever asks, so a game that nobody touches keeps an
expired timer running.

The deadline is the start plus the turn timeout to the nanosecond.  A timer whose deadline lies
outside the calendar never expires.
-/

set_option autoImplicit false

namespace Durak

/-- A timer: whether it is running, and since when. -/
structure Timer where
  running : Bool
  startedAt : Option Instant
  deriving DecidableEq

/-- Which of the two timers of a round is meant. -/
inductive TimerKind where
  | attack
  | defend
  deriving DecidableEq, Repr

namespace TimerKind

/-- Both timers. -/
def all : List TimerKind := [attack, defend]

/-- The timer's name on the wire. -/
def name : TimerKind → String
  | attack => "ATTACK"
  | defend => "DEFEND"

/-- The timer's name in a log record. -/
def title : TimerKind → String
  | attack => "Attack"
  | defend => "Defend"

end TimerKind

namespace Timer

/-- A timer that is not running. -/
def stopped : Timer := ⟨false, none⟩

/-- A timer that starts now. -/
def startedNow (now : Instant) : Timer := ⟨true, some now⟩

/-- When a running timer runs out, for a timeout in seconds. -/
def endsAt? (timer : Timer) (timeout : Double) : Option Instant :=
  match timer.running, timer.startedAt with
  | true, some startedAt => do startedAt.later? (← timeout.nanoseconds?)
  | _, _ => none

/-- Whether a timer has run out. -/
def expired (timer : Timer) (timeout : Double) (now : Instant) : Bool :=
  match timer.endsAt? timeout with
  | some endsAt => endsAt ≤ now
  | none => false

/-- A timer runs out when it runs, and its start and the timeout have a sum in the calendar. -/
theorem endsAt?_eq_some_iff {timer : Timer} {timeout : Double} {deadline : Instant} :
    timer.endsAt? timeout = some deadline ↔
      ∃ startedAt length, timer = .startedNow startedAt ∧ timeout.nanoseconds? = some length ∧
        startedAt.later? length = some deadline := by
  obtain ⟨running, startedAt⟩ := timer
  cases running <;> cases startedAt <;>
    simp [endsAt?, startedNow, Option.bind_eq_some_iff]

/-- Once a timer has run out it stays so. -/
theorem expired_of_le {timer : Timer} {timeout : Double} {now later : Instant}
    (expired : timer.expired timeout now = true) (after : now ≤ later) :
    timer.expired timeout later = true := by
  unfold Timer.expired at *
  split at expired
  · simp only [decide_eq_true_eq, Instant.le_def] at *
    omega
  · cases expired

end Timer

end Durak
