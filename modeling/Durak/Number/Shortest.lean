import Durak.Number.Double
import Durak.Number.Numeral

/-!
# The fewest digits that read back

A double is written with as few significant digits as still name it: among the decimals with that
many digits that round to the double, the nearest one.  The search goes from one digit up to
seventeen and tries, at each length, the two decimals next to the value.  Every decimal it returns
has been read back, and if none were found the exact expansion would be taken, which is also read
back without loss.

Two layouts are in use.  `Double.serialized` is the one of stored games and packs: it always shows
a fraction or an exponent, and it turns to an exponent below `10 ^ -5` and from `10 ^ 16` on.
`Double.displayed` is the one of messages to people, which never shows an exponent.  They also
differ in which way an exact tie between two decimals goes.
-/

set_option autoImplicit false

namespace Durak

-- powers of natural numbers are those of the core library
attribute [local instance (high)] instPowNat

/-! ## Choosing the digits -/

/-- `digits` times ten to the power `exponent`. -/
structure Decimal where
  digits : Nat
  exponent : Int
  deriving DecidableEq, Repr

/-- Which of two decimals at the same distance is taken. -/
inductive Tie where
  | even
  | up
  deriving DecidableEq, Repr

/-- A positive number as a quotient of a numerator by ten to the power `exponent`. -/
def unitsOnGrid (units : Nat) (exponent : Int) : Nat × Nat :=
  if 0 ≤ exponent then (units, unitsInOne * 10 ^ exponent.toNat)
  else (units * 10 ^ (-exponent).toNat, unitsInOne)

namespace Decimal

/-- The double nearest to a decimal, unless that is too large. -/
def nearest? (value : Decimal) : Option Magnitude :=
  if 0 ≤ value.exponent then
    Magnitude.ofQuotient? (value.digits * 10 ^ value.exponent.toNat) 1
  else Magnitude.ofQuotient? value.digits (10 ^ (-value.exponent).toNat)

/-- Whether a decimal names the double it is meant for. -/
def readsBack (value : Decimal) (magnitude : Magnitude) : Bool :=
  value.nearest? == some magnitude

/-- The exact expansion of a double. -/
def exact (magnitude : Magnitude) : Decimal := 
  ⟨magnitude.units * 5 ^ placesOfUnit, -(placesOfUnit : Int)⟩

end Decimal

/-- The largest power of ten that is at most `numerator / denominator`, for a quotient of at least
one. -/
def leadingPower (whole : Nat) : Nat := (decimalDigits whole).length - 1

/-- How often a quotient below one has to be multiplied by ten to reach one, at most `fuel` times. -/
def tensToOne : Nat → Nat → Nat → Nat
  | 0, _, _ => 0
  | fuel + 1, numerator, denominator =>
    if denominator ≤ numerator then 0 else tensToOne fuel (numerator * 10) denominator + 1

/-- The decimal exponent of the leading digit of a number of units. -/
def leadingExponent (units : Nat) : Int :=
  if unitsInOne ≤ units then leadingPower (units / unitsInOne)
  else -(tensToOne 400 units unitsInOne : Nat)

/-- The decimal with `length` digits nearest to a double, if one of that length reads back. -/
def candidate? (tie : Tie) (magnitude : Magnitude) (length : Nat) : Option Decimal :=
  let exponent := leadingExponent magnitude.units - (length - 1 : Nat)
  let (numerator, denominator) := unitsOnGrid magnitude.units exponent
  let below : Decimal := ⟨numerator / denominator, exponent⟩
  let above : Decimal := ⟨numerator / denominator + 1, exponent⟩
  let twice := 2 * (numerator % denominator)
  let belowFirst : Bool :=
    twice < denominator || (twice == denominator && tie == .even && below.digits % 2 == 0)
  let order := if belowFirst then [below, above] else [above, below]
  order.find? fun value => value.readsBack magnitude

/-- The shortest decimal that reads back as a double. -/
def shortest (tie : Tie) (magnitude : Magnitude) : Decimal :=
  (((List.range 17).map (· + 1)).findSome? (candidate? tie magnitude)).getD
    (Decimal.exact magnitude)

/-! ## Laying the digits out -/

/-- Drops the noughts at the end of some digits. -/
def withoutTrailingZeros (digits : List Digit) : List Digit :=
  (digits.reverse.dropWhile (· == Digit.zero)).reverse

/-- Significant digits, the first of them standing for ten to the power `lead`, written out in
full. -/
def positional (negative : Bool) (digits : List Digit) (lead : Int) : Numeral :=
  if 0 ≤ lead then
    let count := lead.toNat + 1
    ⟨negative, digits.take count ++ List.replicate (count - digits.length) Digit.zero,
      digits.drop count, none⟩
  else ⟨negative, [Digit.zero], List.replicate ((-lead).toNat - 1) Digit.zero ++ digits, none⟩

/-- Significant digits with one of them before the point, and an exponent. -/
def scientific (negative : Bool) (digits : List Digit) (lead : Int) : Numeral :=
  ⟨negative, digits.take 1, digits.drop 1, some (lead < 0, decimalDigits lead.natAbs)⟩

/-- The significant digits of a double and the exponent of the first of them. -/
def significantDigits (tie : Tie) (magnitude : Magnitude) : List Digit × Int :=
  let value := shortest tie magnitude
  let digits := decimalDigits value.digits
  (withoutTrailingZeros digits, value.exponent + ((digits.length : Int) - 1))

namespace Numeral

/-- A numeral that shows at least one digit after the point. -/
def withFraction (numeral : Numeral) : Numeral :=
  if numeral.fraction.isEmpty then { numeral with fraction := [Digit.zero] } else numeral

end Numeral

namespace Double

/-- A finite double as stored games and packs write it: a fraction or an exponent is always shown,
and the exponent appears below `10 ^ -5` and from `10 ^ 16` on. -/
def serialized (negative : Bool) (magnitude : Magnitude) : Numeral :=
  if magnitude.units = 0 then ⟨negative, [Digit.zero], [Digit.zero], none⟩
  else
    let (digits, lead) := significantDigits .even magnitude
    if -5 ≤ lead ∧ lead < 16 then (positional negative digits lead).withFraction
    else scientific negative digits lead

/-- A double as messages show it: never an exponent, and no point in a whole number. -/
def displayed : Double → String
  | notANumber => "NaN"
  | infinite negative => if negative then "-inf" else "inf"
  | finite negative magnitude =>
    if magnitude.units = 0 then (⟨negative, [Digit.zero], [], none⟩ : Numeral).text
    else
      let (digits, lead) := significantDigits .up magnitude
      (positional negative digits lead).text

end Double

end Durak
