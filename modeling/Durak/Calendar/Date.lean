/-!
# The calendar

Dates of the proleptic Gregorian calendar, in both directions: `Date.dayNumber` counts days from
the first of January of the year 1970, and `Date.ofDayNumber` finds the date of such a count.  A
year is leap when it is divisible by four and not by a hundred, or by four hundred; years may be
zero or negative.

The year of a day is found by scaling with the length of four hundred years, which is never more
than one year off, and correcting once; `yearOfDay_bounds` says that the year found is the right
one.
-/

set_option autoImplicit false

namespace Durak

-- sums of natural numbers are those of the core library
attribute [local instance (high)] Zero.ofOfNat0

/-- Whether a year has a twenty-ninth of February. -/
def isLeapYear (year : Int) : Bool := year % 4 == 0 && (year % 100 != 0 || year % 400 == 0)

/-- Days from the first of January of the year zero to the first of January of a year. -/
def daysBeforeYear (year : Int) : Int :=
  365 * year + (year + 3) / 4 - (year + 99) / 100 + (year + 399) / 400

/-- The lengths of the months of a year. -/
def monthLengths (leap : Bool) : List Nat :=
  [31, if leap then 29 else 28, 31, 30, 31, 30, 31, 31, 30, 31, 30, 31]

/-- Day count, from the year zero, of the first of January 1970. -/
def epochDay : Int := 719528

/-- The year of a day counted from the year zero. -/
def yearOfDay (day : Int) : Int :=
  let estimate := (400 * day) / 146097
  if day < daysBeforeYear estimate then estimate - 1
  else if daysBeforeYear (estimate + 1) ≤ day then estimate + 1
  else estimate

/-- A year starts less than two days from its share of four hundred years. -/
theorem daysBeforeYear_near (year : Int) :
    146097 * year - 396 ≤ 400 * daysBeforeYear year ∧
      400 * daysBeforeYear year ≤ 146097 * year + 699 := by
  unfold daysBeforeYear
  omega

theorem yearOfDay_bounds (day : Int) :
    daysBeforeYear (yearOfDay day) ≤ day ∧ day < daysBeforeYear (yearOfDay day + 1) := by
  have scaled : 146097 * (400 * day / 146097) ≤ 400 * day ∧
      400 * day < 146097 * (400 * day / 146097) + 146097 := by omega
  unfold yearOfDay
  simp only
  generalize 400 * day / 146097 = estimate at *
  split
  · have := daysBeforeYear_near (estimate - 1)
    rw [Int.sub_add_cancel]
    omega
  · split
    · have := daysBeforeYear_near (estimate + 1 + 1)
      omega
    · omega

/-- The first year a clock may show. -/
def earliestYear : Int := -9999

/-- The last year a clock may show. -/
def latestYear : Int := 9999

/-- A date by year, month and day, both counted from one. -/
structure Date where
  year : Int
  month : Nat
  day : Nat
  deriving DecidableEq, Repr

/-- Which month, from nought, and which day in it, from nought, a day of the year falls in. -/
def monthOfDay : List Nat → Nat → Nat × Nat
  | [], day => (0, day)
  | length :: rest, day =>
    if day < length then (0, day)
    else
      let (month, within) := monthOfDay rest (day - length)
      (month + 1, within)

namespace Date

/-- The length of the month a date lies in. -/
def monthLength (date : Date) : Nat :=
  (monthLengths (isLeapYear date.year)).getD (date.month - 1) 0

/-- Whether there is such a date. -/
def isValid (date : Date) : Bool :=
  1 ≤ date.month && date.month ≤ 12 && 1 ≤ date.day && date.day ≤ date.monthLength

/-- Days from the first of January 1970. -/
def dayNumber (date : Date) : Int :=
  daysBeforeYear date.year +
    (((monthLengths (isLeapYear date.year)).take (date.month - 1)).sum + (date.day - 1) : Nat) -
    epochDay

/-- The date that lies so many days after the first of January 1970. -/
def ofDayNumber (number : Int) : Date :=
  let day := number + epochDay
  let year := yearOfDay day
  let (month, within) :=
    monthOfDay (monthLengths (isLeapYear year)) (day - daysBeforeYear year).toNat
  ⟨year, month + 1, within + 1⟩

end Date

end Durak
