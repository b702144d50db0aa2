import Durak.Json.Reader
import Durak.Json.Value

/-!
# Numerals read back

A JSON text may not put a nought before the other digits of a number, and has to show digits after
an exponent mark.  Every numeral that is written keeps to that (`Numeral.wellWritten_ofInt`,
`Double.wellWritten_serialized`); for a double it is so because the decimal chosen for it reads back
as it, and nought names no double but nought.

Such a numeral is read from its characters as it was written (`Document.takeNumeral?_append`).  It
has to be followed by nothing, a comma or a closing bracket, as every value in a text is
(`EndsValue`), since other symbols could continue it.
-/

set_option autoImplicit false

namespace Durak

/-! ## Numerals that can be read -/

/-- Digits before the point as JSON allows them: a single nought, or a first digit that is none. -/
def WellLed (digits : List Digit) : Prop :=
  digits = [Digit.zero] ∨ ∃ first rest, digits = first :: rest ∧ first ≠ Digit.zero

/-- A numeral as JSON allows one. -/
structure Numeral.WellWritten (numeral : Numeral) : Prop where
  whole : WellLed numeral.whole
  exponent : ∀ negative digits, numeral.exponent = some (negative, digits) → digits ≠ []

theorem WellLed.exists_cons {digits : List Digit} (led : WellLed digits) :
    ∃ first rest, digits = first :: rest := by
  obtain rfl | ⟨first, rest, rfl, -⟩ := led
  · exact ⟨Digit.zero, [], rfl⟩
  · exact ⟨first, rest, rfl⟩

theorem WellLed.cons {first : Digit} (other : first ≠ Digit.zero) (rest : List Digit) :
    WellLed (first :: rest) := .inr ⟨first, rest, rfl, other⟩

/-- The digits of a positive number start with one that is not nought. -/
theorem exists_decimalDigits_eq_cons {number : Nat} (positive : number ≠ 0) :
    ∃ first rest, decimalDigits number = first :: rest ∧ first ≠ Digit.zero := by
  fun_induction decimalDigits number with
  | case1 number small =>
    refine ⟨Fin.ofNat 10 number, [], rfl, fun isZero => positive ?_⟩
    have value := congrArg Fin.val isZero
    simpa [Fin.ofNat, Nat.mod_eq_of_lt small, Digit.zero] using value
  | case2 number large hypothesis =>
    obtain ⟨first, rest, digits, other⟩ := hypothesis (by omega)
    exact ⟨first, rest ++ [Fin.ofNat 10 (number % 10)], by rw [digits]; rfl, other⟩

theorem wellLed_decimalDigits (number : Nat) : WellLed (decimalDigits number) := by
  by_cases positive : number = 0
  · subst positive
    exact .inl (by unfold decimalDigits; rfl)
  · exact .inr (exists_decimalDigits_eq_cons positive)

theorem Numeral.wellWritten_ofInt (number : Int) : (ofInt number).WellWritten where
  whole := wellLed_decimalDigits number.natAbs
  exponent := by
    intro negative digits isExponent
    cases isExponent

/-! ### Doubles -/

/-- Nought is the only double that nought names. -/
theorem Decimal.digits_ne_zero_of_readsBack {value : Decimal} {magnitude : Magnitude}
    (positive : magnitude.units ≠ 0) (back : value.readsBack magnitude = true) :
    value.digits ≠ 0 := by
  intro isZero
  have nothing : ∀ denominator, Magnitude.ofQuotient? 0 denominator = some magnitude → False := by
    intro denominator nearest
    unfold Magnitude.ofQuotient? Magnitude.ofUnits? at nearest
    split at nearest
    · have units := congrArg Magnitude.units (Option.some.inj nearest)
      apply positive
      rw [← units]
      simp [roundToPrecision, roundHalfEven]
    · cases nearest
  simp only [Decimal.readsBack, Decimal.nearest?, isZero, Nat.zero_mul, beq_iff_eq] at back
  split at back
  · exact nothing _ back
  · exact nothing _ back

theorem candidate?_readsBack {tie : Tie} {magnitude : Magnitude} {length : Nat} {value : Decimal}
    (found : candidate? tie magnitude length = some value) : value.readsBack magnitude = true := by
  unfold candidate? at found
  generalize leadingExponent magnitude.units - ((length - 1 : Nat) : Int) = exponent at found
  simp only at found
  generalize unitsOnGrid magnitude.units exponent = grid at found
  exact @List.find?_some _ (fun value : Decimal => value.readsBack magnitude) _ _ found

theorem shortest_digits_ne_zero (tie : Tie) {magnitude : Magnitude}
    (positive : magnitude.units ≠ 0) : (shortest tie magnitude).digits ≠ 0 := by
  unfold shortest
  cases found : ((List.range 17).map (· + 1)).findSome? (candidate? tie magnitude) with
  | none => exact Nat.mul_ne_zero positive (Nat.pos_iff_ne_zero.mp (Nat.pow_pos (by decide)))
  | some value =>
    obtain ⟨length, -, isCandidate⟩ := List.exists_of_findSome?_eq_some found
    exact Decimal.digits_ne_zero_of_readsBack positive (candidate?_readsBack isCandidate)

/-- Dropping noughts at the end keeps a first digit that is none. -/
theorem exists_withoutTrailingZeros_eq_cons {first : Digit} (other : first ≠ Digit.zero)
    (rest : List Digit) :
    ∃ kept, withoutTrailingZeros (first :: rest) = first :: kept := by
  unfold withoutTrailingZeros
  rw [List.reverse_cons, List.dropWhile_append]
  split
  · refine ⟨[], ?_⟩
    simp [other]
  · exact ⟨_, by rw [List.reverse_append]; rfl⟩

/-- The significant digits of a positive double start with one that is not nought. -/
theorem exists_significantDigits_eq_cons (tie : Tie) {magnitude : Magnitude}
    (positive : magnitude.units ≠ 0) :
    ∃ first rest, (significantDigits tie magnitude).1 = first :: rest ∧ first ≠ Digit.zero := by
  obtain ⟨first, rest, digits, other⟩ :=
    exists_decimalDigits_eq_cons (shortest_digits_ne_zero tie positive)
  obtain ⟨kept, isKept⟩ := exists_withoutTrailingZeros_eq_cons other rest
  exact ⟨first, kept, by rw [significantDigits, digits, isKept], other⟩

theorem Numeral.WellWritten.withFraction {numeral : Numeral} (written : numeral.WellWritten) :
    numeral.withFraction.WellWritten := by
  unfold Numeral.withFraction
  split
  · exact ⟨written.whole, written.exponent⟩
  · exact written

/-- A double is written as a numeral that JSON allows. -/
theorem Double.wellWritten_serialized (negative : Bool) (magnitude : Magnitude) :
    (Double.serialized negative magnitude).WellWritten := by
  have bare : ∀ digits fraction, WellLed digits →
      (⟨negative, digits, fraction, none⟩ : Numeral).WellWritten :=
    fun _ _ led => ⟨led, fun _ _ isExponent => by cases isExponent⟩
  unfold Double.serialized
  split
  · exact bare _ _ (.inl rfl)
  · rename_i positive
    obtain ⟨first, rest, digits, other⟩ := exists_significantDigits_eq_cons .even positive
    generalize significantDigits .even magnitude = significant at digits ⊢
    obtain ⟨_, lead⟩ := significant
    subst digits
    simp only
    split
    · refine Numeral.WellWritten.withFraction ?_
      unfold positional
      split
      · simp only [List.take_succ_cons, List.cons_append]
        exact bare _ _ (WellLed.cons other _)
      · exact bare _ _ (.inl rfl)
    · refine ⟨WellLed.cons other [], ?_⟩
      intro sign digits isExponent
      cases isExponent
      exact decimalDigits_ne_nil _

namespace Document

/-! ## Numbers -/

/-- Digits as symbols. -/
def digitSymbols (digits : List Digit) : List Symbol :=
  (digits.map Digit.character).map Symbol.character

/-- Where a value may end: before nothing, before a comma, or before a closing bracket. -/
def EndsValue : List Symbol → Prop
  | [] => True
  | .character next :: _ => next = ',' ∨ next = ']' ∨ next = '\x7d'
  | .stray _ :: _ => False

variable {rest : List Symbol}

theorem digit?_eq_none_of_endsValue {next : Char}
    (ends : EndsValue (.character next :: rest)) : digit? next = none := by
  obtain rfl | rfl | rfl := ends <;> rfl

theorem takeDigitRun_of_endsValue (ends : EndsValue rest) : takeDigitRun rest = ([], rest) := by
  cases rest with
  | nil => rfl
  | cons next rest =>
    cases next with
    | character next => rw [takeDigitRun, digit?_eq_none_of_endsValue ends]
    | stray byte => cases ends

/-- A run of digits is taken up to where it stops. -/
theorem takeDigitRun_append (stops : takeDigitRun rest = ([], rest)) (digits : List Digit) :
    takeDigitRun (digitSymbols digits ++ rest) = (digits, rest) := by
  induction digits with
  | nil => exact stops
  | cons digit digits hypothesis =>
    show takeDigitRun (.character digit.character :: (digitSymbols digits ++ rest)) = _
    rw [takeDigitRun, digit?_character]
    simp only [hypothesis]

/-- The symbols of an exponent. -/
def exponentSymbols : Option (Bool × List Digit) → List Symbol
  | none => []
  | some (negative, digits) =>
    .character 'e' :: .character (if negative then '-' else '+') :: digitSymbols digits

/-- The symbols of a fraction. -/
def fractionSymbols (fraction : List Digit) : List Symbol :=
  if fraction.isEmpty then [] else .character '.' :: digitSymbols fraction

theorem map_characters (numeral : Numeral) :
    numeral.characters.map Symbol.character =
      (if numeral.negative then [.character '-'] else []) ++
        (digitSymbols numeral.whole ++
          (fractionSymbols numeral.fraction ++ exponentSymbols numeral.exponent)) := by
  obtain ⟨negative, whole, fraction, exponent⟩ := numeral
  unfold Numeral.characters fractionSymbols
  simp only [List.append_assoc, List.map_append]
  congr 1
  · cases negative <;> rfl
  · congr 1
    congr 1
    · cases fraction <;> rfl
    · obtain _ | ⟨negative, digits⟩ := exponent
      · rfl
      · cases negative <;> rfl

theorem takeExponent?_append {exponent : Option (Bool × List Digit)}
    (nonempty : ∀ negative digits, exponent = some (negative, digits) → digits ≠ [])
    (ends : EndsValue rest) :
    takeExponent? (exponentSymbols exponent ++ rest) = some (exponent, rest) := by
  obtain _ | ⟨negative, digits⟩ := exponent
  · cases rest with
    | nil => rfl
    | cons next rest =>
      cases next with
      | character next => obtain rfl | rfl | rfl := ends <;> rfl
      | stray byte => cases ends
  · obtain ⟨first, others, rfl⟩ := List.exists_cons_of_ne_nil (nonempty negative digits rfl)
    have taken := takeDigitRun_append (takeDigitRun_of_endsValue ends) (first :: others)
    cases negative
    · show takeExponentDigits? false (digitSymbols (first :: others) ++ rest) = _
      rw [takeExponentDigits?, taken]
    · show takeExponentDigits? true (digitSymbols (first :: others) ++ rest) = _
      rw [takeExponentDigits?, taken]

/-- What follows the digits of a number is no digit. -/
theorem takeDigitRun_exponentSymbols (exponent : Option (Bool × List Digit))
    (ends : EndsValue rest) :
    takeDigitRun (exponentSymbols exponent ++ rest) = ([], exponentSymbols exponent ++ rest) := by
  obtain _ | ⟨negative, digits⟩ := exponent
  · exact takeDigitRun_of_endsValue ends
  · rfl

theorem takeFraction?_append (fraction : List Digit) (exponent : Option (Bool × List Digit))
    (ends : EndsValue rest) :
    takeFraction? (fractionSymbols fraction ++ (exponentSymbols exponent ++ rest)) =
      some (fraction, exponentSymbols exponent ++ rest) := by
  cases fraction with
  | nil =>
    obtain _ | ⟨negative, digits⟩ := exponent
    · cases rest with
      | nil => rfl
      | cons next rest =>
        cases next with
        | character next => obtain rfl | rfl | rfl := ends <;> rfl
        | stray byte => cases ends
    · rfl
  | cons first others =>
    show takeFraction? (.character '.' :: (digitSymbols (first :: others) ++ _)) = _
    rw [takeFraction?, takeDigitRun_append (takeDigitRun_exponentSymbols exponent ends)]

/-- What follows the digits before the point is no digit. -/
theorem takeDigitRun_fractionSymbols (fraction : List Digit)
    (exponent : Option (Bool × List Digit)) (ends : EndsValue rest) :
    takeDigitRun (fractionSymbols fraction ++ (exponentSymbols exponent ++ rest)) =
      ([], fractionSymbols fraction ++ (exponentSymbols exponent ++ rest)) := by
  cases fraction with
  | nil => exact takeDigitRun_exponentSymbols exponent ends
  | cons first others => rfl

theorem takeWhole?_append {whole : List Digit} (led : WellLed whole)
    (stops : takeDigitRun rest = ([], rest)) :
    takeWhole? (digitSymbols whole ++ rest) = some (whole, rest) := by
  obtain rfl | ⟨first, others, rfl, other⟩ := led
  · rfl
  · have taken := takeDigitRun_append stops (first :: others)
    unfold takeWhole?
    split
    · rename_i head
      have isZero : first.character = '0' := Symbol.character.inj (List.cons.inj head).1
      have same := congrArg digit? isZero
      rw [digit?_character] at same
      exact absurd (Option.some.inj same) other
    · rw [taken]

theorem takeUnsigned?_append {numeral : Numeral} (written : numeral.WellWritten)
    (ends : EndsValue rest) :
    takeUnsigned? numeral.negative (digitSymbols numeral.whole ++
      (fractionSymbols numeral.fraction ++ (exponentSymbols numeral.exponent ++ rest))) =
        some (numeral, rest) := by
  have whole := takeWhole?_append written.whole
    (takeDigitRun_fractionSymbols numeral.fraction numeral.exponent ends)
  simp only [takeUnsigned?, whole, takeFraction?_append _ _ ends,
    takeExponent?_append written.exponent ends, Option.bind_eq_bind, Option.bind_some]

theorem digit_character_ne {digit : Digit} {other : Char} (noDigit : digit? other = none) :
    digit.character ≠ other := by
  rintro rfl
  rw [digit?_character] at noDigit
  cases noDigit

/-- **A numeral reads back from the characters it is written in.** -/
theorem takeNumeral?_append {numeral : Numeral} (written : numeral.WellWritten)
    (ends : EndsValue rest) :
    takeNumeral? (numeral.characters.map Symbol.character ++ rest) = some (numeral, rest) := by
  have taken := takeUnsigned?_append written ends
  rw [map_characters, List.append_assoc, List.append_assoc, List.append_assoc]
  cases sign : numeral.negative with
  | true =>
    rw [sign] at taken
    exact taken
  | false =>
    rw [sign] at taken
    simp only [Bool.false_eq_true, if_false, List.nil_append]
    unfold takeNumeral?
    split
    · rename_i head
      obtain ⟨first, others, whole⟩ := written.whole.exists_cons
      rw [whole] at head
      have isSign : first.character = '-' := Symbol.character.inj (List.cons.inj head).1
      exact absurd isSign (digit_character_ne rfl)
    · exact taken

end Document

end Durak
