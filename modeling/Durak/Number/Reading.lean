import Durak.Number.Double
import Durak.Number.Numeral

/-!
# Reading numbers

A numeral is read in two ways.

In a JSON text a numeral without point and exponent that fits sixty-four bits is an integer.  Any
other is a double, and it is read in two roundings: as many leading digits as fit sixty-four bits
are taken for a whole number, that number is rounded to a double, and the result is multiplied or
divided by a power of ten that is itself rounded.  A text with seventeen digits can therefore come
out one step away from the double it is nearest to.  A number too large for a double has no value.

A setting given as text is read by `Double.ofText?`, which rounds the exact decimal once.
-/

set_option autoImplicit false

namespace Durak

-- powers of natural numbers are those of the core library
attribute [local instance (high)] instPowNat

/-! ## Numbers in JSON texts -/

/-- A number of a JSON text: an integer of at most sixty-four bits, or a double. -/
inductive Number where
  | integer (value : Int)
  | real (value : Double)
  deriving DecidableEq

/-- The largest integer a JSON text can hold. -/
def largestInteger : Nat := 2 ^ (64 : Nat) - 1

/-- Takes up leading digits as long as the number stays within sixty-four bits, and returns the
digits that are left. -/
def takeDigits (number : Nat) : List Digit → Nat × List Digit
  | [] => (number, [])
  | digit :: rest =>
    if number * 10 + digit.val ≤ largestInteger then takeDigits (number * 10 + digit.val) rest
    else (number, digit :: rest)

/-- The double nearest to a power of ten. -/
def powerOfTen? (exponent : Nat) : Option Magnitude := Magnitude.ofNat? (10 ^ exponent)

/-- The largest power of ten that is a double. -/
def largestPower : Nat := 308

/-- Multiplies by a power of ten. -/
def scaleUp? (magnitude : Magnitude) (exponent : Nat) : Option Magnitude :=
  if exponent ≤ largestPower then do magnitude.times? (← powerOfTen? exponent)
  else if magnitude.units = 0 then some magnitude
  else none

/-- Divides by the largest power of ten several times, as long as anything is left. -/
def divideRepeatedly? : Nat → Magnitude → Option Magnitude
  | 0, magnitude => some magnitude
  | times + 1, magnitude =>
    if magnitude.units = 0 then some magnitude
    else do divideRepeatedly? times (← magnitude.over? (← powerOfTen? largestPower))

/-- Divides by a power of ten, in steps of at most the largest power. -/
def scaleDown? (magnitude : Magnitude) (exponent : Nat) : Option Magnitude := do
  let steps := (exponent - 1) / largestPower
  let smaller ← divideRepeatedly? steps magnitude
  if smaller.units = 0 then some smaller
  else smaller.over? (← powerOfTen? (exponent - steps * largestPower))

namespace Numeral

/-- The power of ten a numeral names after its digits. -/
def exponentValue (numeral : Numeral) : Int :=
  match numeral.exponent with
  | none => 0
  | some (true, digits) => -(ofDigits digits : Nat)
  | some (false, digits) => (ofDigits digits : Nat)

/-- The double a numeral of a JSON text stands for. -/
def real? (numeral : Numeral) : Option Double := do
  let (whole, dropped) := takeDigits 0 numeral.whole
  let (digits, unread) := takeDigits whole numeral.fraction
  let exponent : Int :=
    numeral.exponentValue + dropped.length - (numeral.fraction.length - unread.length : Nat)
  let significand ← Magnitude.ofNat? digits
  let magnitude ←
    if 0 ≤ exponent then scaleUp? significand exponent.toNat
    else scaleDown? significand (-exponent).toNat
  some (.finite numeral.negative magnitude)

/-- The number a numeral of a JSON text stands for.  Minus nought is a double, and so is every
whole number beyond sixty-four bits. -/
def number? (numeral : Numeral) : Option Number :=
  let size := ofDigits numeral.whole
  if numeral.isWhole && !numeral.negative && size ≤ largestInteger then
    some (.integer size)
  else if numeral.isWhole && numeral.negative && 0 < size && size ≤ 2 ^ (63 : Nat) then
    some (.integer (-(size : Int)))
  else numeral.real?.map .real

end Numeral

/-! ## Numbers in settings -/

/-- The double nearest to a signed decimal, `digits` times ten to the power `exponent`.  Decimals
far outside the range of doubles are settled by their size alone. -/
def Double.ofDecimal (negative : Bool) (digits : Nat) (exponent : Int) : Double :=
  let size : Int := (decimalDigits digits).length
  if digits = 0 ∨ size + exponent < -400 then .finite negative Magnitude.zero
  else if 400 < size + exponent ∧ 0 < exponent then .infinite negative
  else
    let rounded :=
      if 0 ≤ exponent then Magnitude.ofQuotient? (digits * 10 ^ exponent.toNat) 1
      else Magnitude.ofQuotient? digits (10 ^ (-exponent).toNat)
    match rounded with
    | some magnitude => .finite negative magnitude
    | none => .infinite negative

/-- Takes the digits at the head of some characters. -/
def spanDigits : List Char → List Digit × List Char
  | [] => ([], [])
  | character :: rest =>
    match digit? character with
    | none => ([], character :: rest)
    | some digit =>
      let (digits, after) := spanDigits rest
      (digit :: digits, after)

/-- Reads an exponent mark and what follows it, or nothing at all. -/
def exponentOf? : List Char → Option Int
  | [] => some 0
  | mark :: rest =>
    if mark = 'e' ∨ mark = 'E' then
      let (negative, rest) :=
        match rest with
        | '+' :: rest => (false, rest)
        | '-' :: rest => (true, rest)
        | rest => (false, rest)
      match spanDigits rest with
      | ([], _) => none
      | (digits, []) => some (if negative then -(ofDigits digits : Nat) else (ofDigits digits : Nat))
      | _ => none
    else none

/-- Reads an unsigned decimal: digits with an optional point, at least one digit, and an optional
exponent. -/
def unsignedDecimal? (negative : Bool) (text : List Char) : Option Double :=
  let (whole, rest) := spanDigits text
  let (fraction, rest) :=
    match rest with
    | '.' :: rest => spanDigits rest
    | rest => ([], rest)
  let digits := whole ++ fraction
  if digits.isEmpty then none
  else do
    let exponent ← exponentOf? rest
    some (.ofDecimal negative (ofDigits digits) (exponent - fraction.length))

/-- Reads a number given as a setting: a decimal, or one of the words for infinity and for what is
not a number in any mixture of cases. -/
def Double.ofText? (text : String) : Option Double :=
  let (negative, body) :=
    match text.toList with
    | '-' :: rest => (true, rest)
    | '+' :: rest => (false, rest)
    | characters => (false, characters)
  let word := String.ofList (body.map Char.toLower)
  if word = "inf" ∨ word = "infinity" then some (.infinite negative)
  else if word = "nan" then some .notANumber
  else unsignedDecimal? negative body

end Durak
