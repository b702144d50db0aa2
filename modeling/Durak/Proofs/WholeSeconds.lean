import Durak.Memory
import Durak.Proofs.Numerals
import Durak.Proofs.Timestamps

/-!
# Whole seconds read back

A timeout of a whole number of seconds is stored without loss (`Double.readsBack_ofInt`).

The shortest decimal that names such a double is the number itself, with the noughts at its end left
to the exponent, because fewer digits make another whole number and whole numbers of this size are
all doubles; so it is written with its own digits and one nought after the point
(`serialized_of_whole`).  Reading takes up all of these digits, and the division by ten that is left
is exact (`real?_of_whole`).
-/

set_option autoImplicit false

namespace Durak

-- powers and sums of natural numbers are those of the core library
attribute [local instance (high)] instPowNat Zero.ofOfNat0

/-! ## Whole numbers as doubles -/

variable {number : Nat}

theorem fits_whole (small : number ≤ 2 ^ precision) : FitsPrecision (number * unitsInOne) :=
  ⟨number, placesOfUnit, small, rfl⟩

theorem roundToPrecision_whole (small : number ≤ 2 ^ precision) :
    roundToPrecision (number * unitsInOne) 1 = number * unitsInOne := by
  have same := roundToPrecision_of_fits (fits_whole small) 1 (by decide)
  rwa [Nat.mul_one] at same

theorem whole_lt_unitsLimit (small : number ≤ 2 ^ precision) :
    number * unitsInOne < unitsLimit := by
  have bound : number * unitsInOne ≤ 2 ^ precision * unitsInOne := Nat.mul_le_mul_right _ small
  refine Nat.lt_of_le_of_lt bound ?_
  unfold unitsInOne unitsLimit
  rw [← Nat.pow_add]
  exact Nat.pow_lt_pow_right (by decide) (by decide)

/-- A whole number is a double. -/
theorem exists_ofNat?_eq (small : number ≤ 2 ^ precision) :
    ∃ magnitude, Magnitude.ofNat? number = some magnitude ∧
      magnitude.units = number * unitsInOne := by
  have rounded := roundToPrecision_whole small
  unfold Magnitude.ofNat? Magnitude.ofQuotient? Magnitude.ofUnits?
  have bounded : roundToPrecision (number * unitsInOne) 1 < unitsLimit := by
    rw [rounded]
    exact whole_lt_unitsLimit small
  rw [dif_pos bounded]
  exact ⟨_, rfl, rounded⟩

/-- Nought and only nought has no units. -/
theorem units_ne_zero {magnitude : Magnitude} (isWhole : magnitude.units = number * unitsInOne)
    (positive : 0 < number) : magnitude.units ≠ 0 := by
  rw [isWhole]
  exact Nat.mul_ne_zero (Nat.pos_iff_ne_zero.mp positive) (Nat.pos_iff_ne_zero.mp unitsInOne_pos)

/-! ## Digits -/

theorem pow_le_of_length_decimalDigits (positive : 0 < number) :
    10 ^ ((decimalDigits number).length - 1) ≤ number := by
  fun_induction decimalDigits number with
  | case1 number small => exact positive
  | case2 number large hypothesis =>
    have before := hypothesis (by omega)
    have some := List.length_pos_iff.mpr (decimalDigits_ne_nil (number / 10))
    rw [List.length_append, List.length_singleton, Nat.add_sub_cancel]
    obtain ⟨length, isLength⟩ : ∃ length, (decimalDigits (number / 10)).length = length + 1 :=
      ⟨_, (Nat.sub_add_cancel some).symm⟩
    rw [isLength, Nat.add_sub_cancel] at before
    rw [isLength, Nat.pow_succ]
    omega

/-- Multiplying by a power of ten puts noughts at the end. -/
theorem decimalDigits_mul_pow (positive : 0 < number) (count : Nat) :
    decimalDigits (number * 10 ^ count) =
      decimalDigits number ++ List.replicate count Digit.zero := by
  induction count with
  | zero => simp
  | succ count hypothesis =>
    have large : ¬number * 10 ^ (count + 1) < 10 := by
      have : 1 ≤ number * 10 ^ count := Nat.mul_pos positive (Nat.pow_pos (by decide))
      rw [Nat.pow_succ, ← Nat.mul_assoc]
      omega
    have shifted : number * 10 ^ (count + 1) = number * 10 ^ count * 10 := by
      rw [Nat.pow_succ, Nat.mul_assoc]
    rw [decimalDigits, if_neg large, shifted, Nat.mul_div_cancel _ (by decide), hypothesis,
      Nat.mul_mod_left, List.replicate_succ', List.append_assoc]
    rfl

/-! ## The shortest decimal -/

theorem leadingExponent_whole (positive : 0 < number) :
    leadingExponent (number * unitsInOne) = ((decimalDigits number).length - 1 : Nat) := by
  unfold leadingExponent leadingPower
  rw [if_pos (Nat.le_mul_of_pos_left unitsInOne positive), Nat.mul_div_cancel _ unitsInOne_pos]

/-- A whole number is named by no other whole number. -/
theorem eq_of_readsBack {magnitude : Magnitude} (isWhole : magnitude.units = number * unitsInOne)
    {value : Decimal} {count : Nat} (exponent : value.exponent = count)
    (small : value.digits * 10 ^ count ≤ 2 ^ precision)
    (back : value.readsBack magnitude = true) : value.digits * 10 ^ count = number := by
  have nearest : Magnitude.ofNat? (value.digits * 10 ^ count) = some magnitude := by
    have nearest := eq_of_beq back
    rwa [Decimal.nearest?, exponent, if_pos (Int.natCast_nonneg count),
      Int.toNat_natCast] at nearest
  obtain ⟨same, isSame, units⟩ := exists_ofNat?_eq small
  rw [nearest] at isSame
  rw [← Option.some.inj isSame, isWhole] at units
  exact (Nat.eq_of_mul_eq_mul_right unitsInOne_pos units).symm

/-- A whole number is named by itself. -/
theorem readsBack_whole {magnitude : Magnitude} (isWhole : magnitude.units = number * unitsInOne)
    (small : number ≤ 2 ^ precision) : (⟨number, 0⟩ : Decimal).readsBack magnitude = true := by
  obtain ⟨same, isSame, units⟩ := exists_ofNat?_eq small
  have equal : same = magnitude := by
    obtain ⟨_, _, _⟩ := same
    obtain ⟨_, _, _⟩ := magnitude
    simp only [Magnitude.mk.injEq]
    exact units.trans isWhole.symm
  refine beq_iff_eq.mpr ?_
  rw [Decimal.nearest?, if_pos (Int.le_refl 0)]
  show Magnitude.ofNat? (number * 1) = some magnitude
  rw [Nat.mul_one, isSame, equal]

/-- Every decimal that is tried with at most as many digits as a whole number has, and that names
it, is that number. -/
theorem exists_of_candidate? {magnitude : Magnitude}
    (isWhole : magnitude.units = number * unitsInOne) (positive : 0 < number)
    (small : number * 2 ≤ 2 ^ precision) {length : Nat}
    (short : length ≤ (decimalDigits number).length) (nonempty : 0 < length) {tie : Tie}
    {value : Decimal} (found : candidate? tie magnitude length = some value) :
    ∃ count : Nat, value.exponent = count ∧ value.digits * 10 ^ count = number := by
  have back := candidate?_readsBack found
  have lead := pow_le_of_length_decimalDigits positive
  have exponent : leadingExponent magnitude.units - ((length - 1 : Nat) : Int) =
      ((decimalDigits number).length - length : Nat) := by
    rw [isWhole, leadingExponent_whole positive]
    omega
  generalize isCount : (decimalDigits number).length - length = count at exponent
  have power : 10 ^ count ≤ number :=
    Nat.le_trans (Nat.pow_le_pow_right (by decide) (by omega)) lead
  have grid : unitsOnGrid magnitude.units count =
      (number * unitsInOne, unitsInOne * 10 ^ count) := by
    rw [unitsOnGrid, if_pos (Int.natCast_nonneg count), Int.toNat_natCast, isWhole]
  have quotient : number * unitsInOne / (unitsInOne * 10 ^ count) = number / 10 ^ count := by
    rw [Nat.mul_comm number, Nat.mul_div_mul_left _ _ unitsInOne_pos]
  unfold candidate? at found
  rw [exponent] at found
  simp only [grid, quotient] at found
  have tried := List.mem_of_find?_eq_some found
  have isTried : value = ⟨number / 10 ^ count, count⟩ ∨
      value = ⟨number / 10 ^ count + 1, count⟩ := by
    split at tried
    · simpa using tried
    · simpa [or_comm] using tried
  have below := Nat.div_mul_le_self number (10 ^ count)
  refine ⟨count, ?_, ?_⟩
  · obtain rfl | rfl := isTried <;> rfl
  · obtain rfl | rfl := isTried
    · exact eq_of_readsBack isWhole rfl (by simp only; omega) back
    · refine eq_of_readsBack isWhole rfl ?_ back
      simp only [Nat.add_mul, Nat.one_mul]
      omega

/-- With as many digits as a whole number has, a decimal is found for it. -/
theorem isSome_candidate? {magnitude : Magnitude}
    (isWhole : magnitude.units = number * unitsInOne) (positive : 0 < number)
    (small : number ≤ 2 ^ precision) (tie : Tie) :
    (candidate? tie magnitude (decimalDigits number).length).isSome = true := by
  have exponent : leadingExponent magnitude.units -
      (((decimalDigits number).length - 1 : Nat) : Int) = 0 := by
    rw [isWhole, leadingExponent_whole positive]
    omega
  have grid : unitsOnGrid magnitude.units 0 = (number * unitsInOne, unitsInOne) := by
    rw [unitsOnGrid, if_pos (Int.le_refl 0), isWhole]
    simp
  have exact : number * unitsInOne / unitsInOne = number := Nat.mul_div_cancel _ unitsInOne_pos
  have back := readsBack_whole isWhole small
  unfold candidate?
  rw [exponent]
  simp only [grid, exact]
  rw [List.find?_isSome]
  refine ⟨⟨number, 0⟩, ?_, back⟩
  split <;> simp

/-- The shortest decimal of a whole number is that number. -/
theorem exists_shortest_of_whole {magnitude : Magnitude}
    (isWhole : magnitude.units = number * unitsInOne) (positive : 0 < number)
    (small : number * 2 ≤ 2 ^ precision) (few : (decimalDigits number).length ≤ 17) (tie : Tie) :
    ∃ count : Nat, (shortest tie magnitude).exponent = count ∧
      (shortest tie magnitude).digits * 10 ^ count = number := by
  have some := List.length_pos_iff.mpr (decimalDigits_ne_nil number)
  have own := isSome_candidate? isWhole positive (by omega) tie
  have listed : (decimalDigits number).length ∈ (List.range 17).map (· + 1) :=
    List.mem_map.mpr ⟨(decimalDigits number).length - 1, List.mem_range.mpr (by omega), by omega⟩
  have ascending : ((List.range 17).map (· + 1)).Pairwise (· < ·) := by decide
  have atLeastOne : ∀ length ∈ (List.range 17).map (· + 1), 0 < length := by decide
  unfold shortest
  cases found : ((List.range 17).map (· + 1)).findSome? (candidate? tie magnitude) with
  | none =>
    rw [List.findSome?_eq_none_iff.mp found _ listed] at own
    cases own
  | some value =>
    -- the first length that gives a decimal comes no later than the number's own
    obtain ⟨before, length, later, parts, isFound, nothing⟩ := List.findSome?_eq_some_iff.mp found
    rw [parts] at listed ascending atLeastOne
    have short : length ≤ (decimalDigits number).length := by
      rcases List.mem_append.mp listed with earlier | fromHere
      · rw [nothing _ earlier] at own
        cases own
      · rcases List.mem_cons.mp fromHere with same | after
        · exact Nat.le_of_eq same.symm
        · have ordered := (List.pairwise_append.mp ascending).2.1
          exact Nat.le_of_lt ((List.pairwise_cons.mp ordered).1 _ after)
    exact exists_of_candidate? isWhole positive small short (atLeastOne length (by simp)) isFound

/-! ## Writing and reading -/

/-- **A whole number is written with its own digits and one nought after the point.** -/
theorem serialized_of_whole {magnitude : Magnitude}
    (isWhole : magnitude.units = number * unitsInOne) (positive : 0 < number)
    (small : number * 2 ≤ 2 ^ precision) (few : (decimalDigits number).length ≤ 16)
    (negative : Bool) :
    Double.serialized negative magnitude =
      ⟨negative, decimalDigits number, [Digit.zero], none⟩ := by
  obtain ⟨count, exponent, digits⟩ :=
    exists_shortest_of_whole isWhole positive small (by omega) .even
  generalize isShortest : shortest .even magnitude = value at exponent digits
  have significant : 0 < value.digits := by
    rcases Nat.eq_zero_or_pos value.digits with none | some
    · rw [none, Nat.zero_mul] at digits
      omega
    · exact some
  obtain ⟨zeros, parts⟩ := exists_append_replicate (decimalDigits value.digits)
  have whole : decimalDigits number =
      withoutTrailingZeros (decimalDigits value.digits) ++
        List.replicate (zeros + count) Digit.zero := by
    rw [← digits, decimalDigits_mul_pow significant, ← List.replicate_append_replicate,
      ← List.append_assoc, ← parts]
  have length := congrArg List.length whole
  have shorter := congrArg List.length parts
  simp only [List.length_append, List.length_replicate] at length shorter
  have some := List.length_pos_iff.mpr (decimalDigits_ne_nil value.digits)
  have lead : value.exponent + (((decimalDigits value.digits).length : Int) - 1) =
      ((decimalDigits number).length - 1 : Nat) := by
    rw [exponent]
    omega
  unfold Double.serialized significantDigits
  rw [if_neg (units_ne_zero isWhole positive), isShortest]
  simp only [lead]
  rw [if_pos (by omega), positional, if_pos (by omega)]
  have size : (decimalDigits number).length - 1 + 1 =
      (withoutTrailingZeros (decimalDigits value.digits)).length + (zeros + count) := by omega
  simp only [Int.toNat_natCast, size, Nat.add_sub_cancel_left]
  rw [List.take_of_length_le (Nat.le_add_right _ _), List.drop_of_length_le (Nat.le_add_right _ _),
    ← whole]
  rfl

/-- Digits are all taken up as long as the number they make is an integer of sixty-four bits. -/
theorem takeDigits_of_small {digits : List Digit} {before : Nat}
    (small : before * 10 ^ digits.length + ofDigits digits ≤ largestInteger) :
    takeDigits before digits = (before * 10 ^ digits.length + ofDigits digits, []) := by
  rw [← foldl_digits] at small ⊢
  induction digits generalizing before with
  | nil => rfl
  | cons digit digits hypothesis =>
    rw [List.foldl_cons] at small ⊢
    have grows : before * 10 + digit.val ≤
        digits.foldl (fun number digit => number * 10 + digit.val) (before * 10 + digit.val) := by
      rw [foldl_digits]
      have least := Nat.le_mul_of_pos_right (before * 10 + digit.val)
        (Nat.pow_pos (by decide) : 0 < 10 ^ digits.length)
      exact Nat.le_trans least (Nat.le_add_right _ _)
    rw [takeDigits, if_pos (Nat.le_trans grows small)]
    exact hypothesis small

/-- A power of ten that is a double is divided by at once. -/
theorem scaleDown?_of_le {magnitude power : Magnitude} {exponent : Nat}
    (few : exponent ≤ largestPower) (notNought : magnitude.units ≠ 0)
    (isPower : powerOfTen? exponent = some power) :
    scaleDown? magnitude exponent = magnitude.over? power := by
  have noSteps : (exponent - 1) / largestPower = 0 := by
    unfold largestPower at *
    omega
  have nothing : divideRepeatedly? 0 magnitude = some magnitude := by rw [divideRepeatedly?]
  have same : exponent - 0 * largestPower = exponent := by rw [Nat.zero_mul, Nat.sub_zero]
  unfold scaleDown?
  simp only [noSteps, nothing, same, isPower]
  rw [Option.bind_eq_bind, Option.bind_some, if_neg notNought, Option.bind_some]

/-- A whole number is a tenth of ten times it. -/
theorem over?_ten {magnitude significand ten : Magnitude}
    (isWhole : magnitude.units = number * unitsInOne)
    (isTenfold : significand.units = number * 10 * unitsInOne)
    (isTen : ten.units = 10 * unitsInOne) : significand.over? ten = some magnitude := by
  have product : significand.units * unitsInOne = magnitude.units * ten.units := by
    rw [isWhole, isTenfold, isTen, Nat.mul_assoc (number * 10), Nat.mul_mul_mul_comm number]
  have positive : 0 < ten.units := by
    rw [isTen]
    exact Nat.mul_pos (by decide) unitsInOne_pos
  rw [Magnitude.over?, product]
  exact Magnitude.ofUnits?_mul magnitude ten.units positive

/-- A whole number is read from its own digits and one nought after the point. -/
theorem real?_of_whole {magnitude : Magnitude} (isWhole : magnitude.units = number * unitsInOne)
    (positive : 0 < number) (small : number * 10 ≤ 2 ^ precision) (negative : Bool) :
    (⟨negative, decimalDigits number, [Digit.zero], none⟩ : Numeral).real? =
      some (.finite negative magnitude) := by
  have fits : number * 10 ≤ largestInteger := Nat.le_trans small (by decide)
  have whole : takeDigits 0 (decimalDigits number) = (number, []) := by
    have taken := @takeDigits_of_small (decimalDigits number) 0
      (by rw [ofDigits_decimalDigits]; omega)
    rwa [ofDigits_decimalDigits, Nat.zero_mul, Nat.zero_add] at taken
  have fraction : takeDigits number [Digit.zero] = (number * 10, []) :=
    @takeDigits_of_small [Digit.zero] number fits
  obtain ⟨significand, isSignificand, digits⟩ := exists_ofNat?_eq small
  obtain ⟨ten, isTen, tenUnits⟩ := @exists_ofNat?_eq 10 (by decide)
  have notNought : significand.units ≠ 0 := units_ne_zero digits (by omega)
  have power : powerOfTen? 1 = some ten := by rw [powerOfTen?, Nat.pow_one, isTen]
  have scaled : scaleDown? significand 1 = some magnitude :=
    (scaleDown?_of_le (by decide) notNought power).trans (over?_ten isWhole digits tenUnits)
  unfold Numeral.real?
  simp only [whole, fraction, Numeral.exponentValue, isSignificand, Option.bind_eq_bind,
    Option.bind_some]
  rw [if_neg (by simp)]
  show (scaleDown? significand 1).bind (fun size => some (Double.finite negative size)) = _
  rw [scaled]
  rfl

theorem length_decimalDigits_le_sixteen (small : number * 10 ≤ 2 ^ precision) :
    (decimalDigits number).length ≤ 16 := by
  refine length_decimalDigits_le (by decide) ?_
  have bound : 2 ^ precision ≤ 10 ^ 16 := by decide
  omega

/-- **A whole number is read as the double that was written.**  Ten times the number still has to be
a double, because that is what the digits make when the nought after the point is among them. -/
theorem Double.readsBack_of_whole {magnitude : Magnitude}
    (isWhole : magnitude.units = number * unitsInOne) (positive : 0 < number)
    (small : number * 10 ≤ 2 ^ precision) (negative : Bool) :
    (Double.finite negative magnitude).readsBack = true := by
  have few := length_decimalDigits_le_sixteen small
  have written := serialized_of_whole isWhole positive (by omega) few negative
  have restored : (Double.finite negative magnitude).restored? =
      some (.finite negative magnitude) :=
    (congrArg Numeral.real? written).trans (real?_of_whole isWhole positive small negative)
  unfold Double.readsBack
  rw [restored]
  exact beq_self_eq_true _

theorem Double.exists_ofInt_eq {number : Int} {magnitude : Magnitude}
    (isMagnitude : Magnitude.ofNat? number.natAbs = some magnitude) :
    ∃ negative, Double.ofInt number = .finite negative magnitude := by
  -- the function is unfolded without its argument, so that nobody tries to round that
  have unfolded : Double.ofInt = Double.ofInt := rfl
  conv at unfolded =>
    rhs
    delta Double.ofInt
  have here := congrFun unfolded number
  simp only [isMagnitude] at here
  exact ⟨_, here⟩

/-- Every whole number of seconds that is allowed as a timeout reads back, and many more. -/
theorem Double.readsBack_ofInt {seconds : Int} (notNought : seconds ≠ 0)
    (small : seconds.natAbs * 10 ≤ 2 ^ precision) : (Double.ofInt seconds).readsBack = true := by
  obtain ⟨magnitude, isMagnitude, isWhole⟩ := exists_ofNat?_eq (show seconds.natAbs ≤ _ by omega)
  obtain ⟨negative, isDouble⟩ := exists_ofInt_eq isMagnitude
  rw [isDouble]
  exact readsBack_of_whole isWhole (Int.natAbs_pos.mpr notNought) small negative

end Durak
