/-!
# Rounding to the nearest

Two roundings are used, and both settle a tie in favour of the even neighbour.  `roundHalfEven`
rounds a quotient of natural numbers to a whole number.  `roundToPrecision` keeps fifty-three
significant binary digits of a quotient, and no digit below the unit; it is the rounding of
binary floating point, with the unit standing for the smallest positive number.

The result of `roundToPrecision` always fits the precision (`fits_roundToPrecision`), and a number
that already fits is not changed (`roundToPrecision_of_fits`).
-/

set_option autoImplicit false

namespace Durak

-- powers of natural numbers are those of the core library
attribute [local instance (high)] instPowNat

/-! ## Whole numbers -/

/-- `numerator / denominator` rounded to the nearest whole number, a half going to the even
neighbour. -/
def roundHalfEven (numerator denominator : Nat) : Nat :=
  let quotient := numerator / denominator
  let twice := 2 * (numerator % denominator)
  if twice < denominator then quotient
  else if denominator < twice then quotient + 1
  else if quotient % 2 = 0 then quotient
  else quotient + 1

theorem roundHalfEven_le (numerator denominator : Nat) :
    roundHalfEven numerator denominator ≤ numerator / denominator + 1 := by
  simp only [roundHalfEven]
  split
  · omega
  · split
    · omega
    · split <;> omega

/-- A multiple of the denominator is divided exactly. -/
theorem roundHalfEven_mul (whole denominator : Nat) (positive : 0 < denominator) :
    roundHalfEven (whole * denominator) denominator = whole := by
  simp [roundHalfEven, Nat.mul_div_cancel _ positive, positive]

/-! ## Binary digits -/

/-- Number of significant binary digits that are kept. -/
def precision : Nat := 53

/-- A number fits when it is at most `2 ^ 53` steps of some power of two. -/
def FitsPrecision (units : Nat) : Prop :=
  ∃ significand shift : Nat, significand ≤ 2 ^ precision ∧ units = significand * 2 ^ shift

/-- How many low binary digits a number of this size has to give up. -/
def surplusDigits (whole : Nat) : Nat := whole.log2 + 1 - precision

/-- `numerator / denominator` rounded to the precision, a half going to the even neighbour. -/
def roundToPrecision (numerator denominator : Nat) : Nat :=
  let shift := surplusDigits (numerator / denominator)
  roundHalfEven numerator (denominator * 2 ^ shift) * 2 ^ shift

theorem fits_zero : FitsPrecision 0 := ⟨0, 0, by decide, by decide⟩

/-- What is left of a number without its surplus digits is below `2 ^ 53`. -/
theorem div_surplusDigits_lt (whole : Nat) : whole / 2 ^ surplusDigits whole < 2 ^ precision := by
  rw [Nat.div_lt_iff_lt_mul (Nat.two_pow_pos _), ← Nat.pow_add]
  refine Nat.lt_of_lt_of_le (Nat.lt_log2_self (n := whole)) ?_
  apply Nat.pow_le_pow_right (by decide)
  unfold surplusDigits precision
  omega

theorem fits_roundToPrecision (numerator denominator : Nat) :
    FitsPrecision (roundToPrecision numerator denominator) := by
  refine ⟨roundHalfEven numerator (denominator * 2 ^ surplusDigits (numerator / denominator)),
    surplusDigits (numerator / denominator), ?_, rfl⟩
  refine Nat.le_trans (roundHalfEven_le _ _) ?_
  rw [← Nat.div_div_eq_div_mul]
  have := div_surplusDigits_lt (numerator / denominator)
  omega

/-- A number that fits is a multiple of the power of two its surplus digits stand for. -/
theorem dvd_of_fits {units : Nat} (fits : FitsPrecision units) :
    2 ^ surplusDigits units ∣ units := by
  obtain ⟨significand, shift, small, rfl⟩ := fits
  by_cases zero : significand = 0
  · subst zero; simp
  · by_cases top : significand = 2 ^ precision
    · subst top
      rw [← Nat.pow_add]
      apply Nat.pow_dvd_pow
      rw [surplusDigits, Nat.log2_two_pow]
      unfold precision
      omega
    · refine Nat.dvd_trans (Nat.pow_dvd_pow 2 ?_) (Nat.dvd_mul_left _ _)
      have below : significand * 2 ^ shift < 2 ^ (precision + shift) := by
        rw [Nat.pow_add]
        exact Nat.mul_lt_mul_of_pos_right (by omega) (Nat.two_pow_pos _)
      have nonzero : significand * 2 ^ shift ≠ 0 :=
        Nat.mul_ne_zero zero (Nat.pos_iff_ne_zero.mp (Nat.two_pow_pos _))
      have := (Nat.log2_lt nonzero).mpr below
      unfold surplusDigits
      omega

theorem roundToPrecision_of_fits {units : Nat} (fits : FitsPrecision units) (denominator : Nat)
    (positive : 0 < denominator) :
    roundToPrecision (units * denominator) denominator = units := by
  obtain ⟨count, exact⟩ := dvd_of_fits fits
  have pos : 0 < denominator * 2 ^ surplusDigits units :=
    Nat.mul_pos positive (Nat.two_pow_pos _)
  simp only [roundToPrecision, Nat.mul_div_cancel _ positive]
  conv => lhs; lhs; lhs; rw [exact]
  rw [show 2 ^ surplusDigits units * count * denominator =
      count * (denominator * 2 ^ surplusDigits units) by
    rw [Nat.mul_comm (2 ^ _) count, Nat.mul_assoc, Nat.mul_comm (2 ^ _) denominator]]
  rw [roundHalfEven_mul _ _ pos, Nat.mul_comm]
  exact exact.symm

end Durak
