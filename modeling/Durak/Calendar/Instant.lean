import Durak.Calendar.Date
import Durak.Number.Double

/-!
# Instants

An instant is what a wall clock shows, in nanoseconds, together with how far that clock is ahead
of universal time.  Two instants are compared by universal time; the offset only decides how one
is written.  An instant keeps its offset when time is added to it, and a sum that leaves the years
from `-9999` to `9999` does not exist.
-/

set_option autoImplicit false

namespace Durak

/-- Nanoseconds in a second. -/
def secondNanos : Int := 1000000000

/-- Nanoseconds in a day. -/
def dayNanos : Int := 86400 * secondNanos

/-- How many minutes a clock is ahead of universal time, less than a day either way.  These are the
offsets that a timestamp can show.  A clock that is off by seconds, or by a day, has no timestamp at
all, and is left out here: universal time, on which the service runs, is not such a clock. -/
structure Offset where
  minutes : Int
  above : -1440 < minutes
  below : minutes < 1440
  deriving DecidableEq

/-- Universal time itself. -/
def Offset.zero : Offset := ⟨0, by decide, by decide⟩

/-- What a clock shows, in nanoseconds since the start of 1970, and that clock's offset. -/
structure Instant where
  wallClock : Int
  offset : Offset
  deriving DecidableEq

namespace Instant

/-- Nanoseconds of universal time since the start of 1970. -/
def absolute (instant : Instant) : Int :=
  instant.wallClock - instant.offset.minutes * 60 * secondNanos

instance : LE Instant := ⟨fun first second => first.absolute ≤ second.absolute⟩

instance (first second : Instant) : Decidable (first ≤ second) :=
  inferInstanceAs (Decidable (first.absolute ≤ second.absolute))

theorem le_def (first second : Instant) :
    first ≤ second ↔ first.absolute ≤ second.absolute := Iff.rfl

/-- The instant so many seconds after the start of 1970, in universal time. -/
def ofUnixSeconds (seconds : Int) : Instant := ⟨seconds * secondNanos, Offset.zero⟩

/-- The date the clock shows. -/
def date (instant : Instant) : Date := Date.ofDayNumber (instant.wallClock / dayNanos)

/-- Nanoseconds since midnight on the clock. -/
def nanosOfDay (instant : Instant) : Nat := (instant.wallClock % dayNanos).toNat

/-- The first nanosecond a clock may show. -/
def earliestClock : Int := (daysBeforeYear earliestYear - epochDay) * dayNanos

/-- The first nanosecond that is too late for a clock. -/
def endOfClock : Int := (daysBeforeYear (latestYear + 1) - epochDay) * dayNanos

/-- The instant some nanoseconds later, unless that leaves the calendar. -/
def later? (instant : Instant) (nanoseconds : Int) : Option Instant :=
  let wallClock := instant.wallClock + nanoseconds
  if earliestClock ≤ wallClock ∧ wallClock < endOfClock then some { instant with wallClock }
  else none

theorem absolute_later? {instant sum : Instant} {nanoseconds : Int}
    (exists_ : instant.later? nanoseconds = some sum) :
    sum.absolute = instant.absolute + nanoseconds := by
  unfold later? at exists_
  simp only at exists_
  split at exists_
  · cases exists_
    simp only [absolute]
    omega
  · cases exists_

end Instant

end Durak
