/-!
# Decimal numerals

A numeral is a number as it is written: a sign, the digits before the point, the digits after it,
and an exponent.  Keeping the digits apart from the value is what lets one text be judged in two
ways, as an integer in a range and as a double.

`decimalDigits` and `ofDigits` pass between a natural number and its digits, and
`ofDigits_decimalDigits` says that nothing is lost.
-/

set_option autoImplicit false

namespace Durak

/-- A decimal digit. -/
abbrev Digit := Fin 10

/-- The digit zero. -/
def Digit.zero : Digit := 0

/-- The digits of a number, highest first; zero has the one digit nought. -/
def decimalDigits (number : Nat) : List Digit :=
  if number < 10 then [Fin.ofNat 10 number]
  else decimalDigits (number / 10) ++ [Fin.ofNat 10 (number % 10)]

/-- The number some digits stand for, highest first. -/
def ofDigits (digits : List Digit) : Nat :=
  digits.foldl (fun number digit => number * 10 + digit.val) 0

theorem ofDigits_append_singleton (digits : List Digit) (last : Digit) :
    ofDigits (digits ++ [last]) = ofDigits digits * 10 + last.val := by
  simp [ofDigits]

theorem ofDigits_decimalDigits (number : Nat) : ofDigits (decimalDigits number) = number := by
  fun_induction decimalDigits number with
  | case1 number small => simp [ofDigits, Nat.mod_eq_of_lt small]
  | case2 number _ hypothesis =>
    rw [ofDigits_append_singleton, hypothesis]
    simp only [Fin.val_ofNat]
    omega

theorem decimalDigits_ne_nil (number : Nat) : decimalDigits number ≠ [] := by
  unfold decimalDigits
  split <;> simp

/-- The character of a digit. -/
def Digit.character (digit : Digit) : Char := Char.ofNat (48 + digit.val)

/-- The digit a character shows; only the ten ASCII digits count. -/
def digit? (character : Char) : Option Digit :=
  if bounds : 48 ≤ character.toNat ∧ character.toNat < 58 then
    some ⟨character.toNat - 48, by omega⟩
  else none

theorem digit?_character (digit : Digit) : digit? digit.character = some digit := by
  revert digit
  decide

/-- A decimal number as it is written.  `fraction` is empty when there is no point; the exponent
is a sign, true for minus, and its digits. -/
structure Numeral where
  negative : Bool
  whole : List Digit
  fraction : List Digit
  exponent : Option (Bool × List Digit)
  deriving DecidableEq, Repr

namespace Numeral

/-- The numeral of a whole number. -/
def ofInt (number : Int) : Numeral :=
  ⟨number < 0, decimalDigits number.natAbs, [], none⟩

/-- Whether a numeral has neither a point nor an exponent. -/
def isWhole (numeral : Numeral) : Bool :=
  numeral.fraction.isEmpty && numeral.exponent.isNone

/-- The characters of a numeral.  An exponent always shows its sign. -/
def characters (numeral : Numeral) : List Char :=
  (if numeral.negative then ['-'] else []) ++
  numeral.whole.map Digit.character ++
  (if numeral.fraction.isEmpty then [] else '.' :: numeral.fraction.map Digit.character) ++
  match numeral.exponent with
  | none => []
  | some (negative, digits) =>
    'e' :: (if negative then '-' else '+') :: digits.map Digit.character

/-- The text of a numeral. -/
def text (numeral : Numeral) : String := String.ofList numeral.characters

end Numeral

/-- A natural number in decimal. -/
def decimal (number : Nat) : String :=
  String.ofList ((decimalDigits number).map Digit.character)

/-- A natural number in decimal, with noughts before it up to the given width. -/
def paddedDigits (width number : Nat) : List Char :=
  let digits := (decimalDigits number).map Digit.character
  List.replicate (width - digits.length) '0' ++ digits

end Durak
