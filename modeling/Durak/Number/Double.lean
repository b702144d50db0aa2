import Durak.Number.Rounding

/-!
# Double-precision numbers

A turn timeout is a double-precision number.  Here a finite one is kept as what it is, a whole
number of units of `2 ^ -1074` with a sign, so that every question about it (is it at most a day,
how many nanoseconds is it) is a question about natural numbers.  `Magnitude` carries the two facts
that make such a number a double: it fits fifty-three binary digits, and it is below `2 ^ 1024`.

Arithmetic is the exact result rounded once, `Magnitude.ofQuotient?`, which has no value when the
result is too large.
-/

set_option autoImplicit false

namespace Durak

-- powers of natural numbers are those of the core library
attribute [local instance (high)] instPowNat

/-- Binary places after the point of the smallest positive double. -/
def placesOfUnit : Nat := 1074

/-- Binary places of the first power of two that is too large for a double, counted from the
unit. -/
def placesOfLimit : Nat := 2098

/-- The number of units in one: a unit is the smallest positive double. -/
def unitsInOne : Nat := 2 ^ placesOfUnit

/-- The first number of units that is too large for a double. -/
def unitsLimit : Nat := 2 ^ placesOfLimit

theorem unitsInOne_pos : 0 < unitsInOne := Nat.two_pow_pos placesOfUnit

theorem unitsLimit_pos : 0 < unitsLimit := Nat.two_pow_pos placesOfLimit

/-- The size of a finite double, counted in units of `2 ^ -1074`. -/
structure Magnitude where
  units : Nat
  fits : FitsPrecision units
  bounded : units < unitsLimit
  deriving DecidableEq

namespace Magnitude

/-- Nothing at all. -/
def zero : Magnitude := ⟨0, fits_zero, unitsLimit_pos⟩

/-- The double nearest to a number of units given as a quotient, unless that is too large. -/
def ofUnits? (numerator denominator : Nat) : Option Magnitude :=
  if bounded : roundToPrecision numerator denominator < unitsLimit then
    some ⟨roundToPrecision numerator denominator, fits_roundToPrecision _ _, bounded⟩
  else none

/-- The double nearest to a quotient, unless that is too large. -/
def ofQuotient? (numerator denominator : Nat) : Option Magnitude :=
  ofUnits? (numerator * unitsInOne) denominator

/-- The double nearest to a natural number, unless that is too large. -/
def ofNat? (number : Nat) : Option Magnitude := ofQuotient? number 1

/-- The product, rounded once. -/
def times? (first second : Magnitude) : Option Magnitude :=
  ofUnits? (first.units * second.units) unitsInOne

/-- The quotient, rounded once. -/
def over? (first second : Magnitude) : Option Magnitude :=
  ofUnits? (first.units * unitsInOne) second.units

/-- A double is the one nearest to itself. -/
theorem ofUnits?_mul (magnitude : Magnitude) (denominator : Nat) (positive : 0 < denominator) :
    ofUnits? (magnitude.units * denominator) denominator = some magnitude := by
  have same := roundToPrecision_of_fits magnitude.fits denominator positive
  unfold ofUnits?
  rw [dif_pos (by rw [same]; exact magnitude.bounded)]
  congr 1
  cases magnitude
  simp only [Magnitude.mk.injEq]
  exact same

end Magnitude

/-- A double-precision number. -/
inductive Double where
  | notANumber
  | infinite (negative : Bool)
  | finite (negative : Bool) (magnitude : Magnitude)
  deriving DecidableEq

namespace Double

/-- Whether a number is finite. -/
def isFinite : Double → Bool
  | finite _ _ => true
  | _ => false

/-- The double nearest to a whole number. -/
def ofInt (number : Int) : Double :=
  match Magnitude.ofNat? number.natAbs with
  | some magnitude => finite (number < 0) magnitude
  | none => infinite (number < 0)

/-- Whether a number is above zero and at most `limit`. -/
def isWithin (limit : Nat) : Double → Bool
  | finite false magnitude => 0 < magnitude.units && magnitude.units ≤ limit * unitsInOne
  | _ => false

/-- A number of seconds in nanoseconds, rounded to the nearest whole one, a half going to the even
neighbour. -/
def nanoseconds? : Double → Option Int
  | finite negative magnitude =>
    let rounded : Int := roundHalfEven (magnitude.units * 1000000000) unitsInOne
    some (if negative then -rounded else rounded)
  | _ => none

end Double

end Durak
