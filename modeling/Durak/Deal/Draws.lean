import Durak.Deal.KeyStream

/-!
# Drawing numbers

A stream of words is turned into numbers below a bound by multiplying a word by the bound and
keeping what exceeds thirty-two digits.  Where the digits cut off could still carry into the result
a second word supplies more of them.  `below_lt` says that the number drawn is indeed below the
bound.
-/

set_option autoImplicit false

namespace Durak

-- powers of natural numbers are those of the core library
attribute [local instance (high)] instPowNat

/-- One more than the largest word. -/
def wordLimit : Nat := 2 ^ (32 : Nat)

/-- What numbers are drawn from: a stream of words, and how many of them have been used. -/
structure Draws where
  word : Nat → UInt32
  used : Nat

namespace Draws

/-- The draws of a seed, from the start of its key stream. -/
def ofSeed (seed : UInt64) : Draws := ⟨keyStream seed, 0⟩

/-- The next word as a number. -/
def peek (draws : Draws) (ahead : Nat) : Nat := (draws.word (draws.used + ahead)).toNat

/-- The draws after so many more words have been used. -/
def skip (draws : Draws) (words : Nat) : Draws := { draws with used := draws.used + words }

/-- Draws a number below a bound. -/
def below (draws : Draws) (bound : Nat) : Nat × Draws :=
  let scaled := draws.peek 0 * bound
  if wordLimit - bound < scaled % wordLimit then
    ((scaled + draws.peek 1 * bound / wordLimit) / wordLimit, draws.skip 2)
  else (scaled / wordLimit, draws.skip 1)

theorem peek_lt (draws : Draws) (ahead : Nat) : draws.peek ahead < wordLimit :=
  (draws.word (draws.used + ahead)).toNat_lt

/-- A number drawn below a bound is below it. -/
theorem below_lt (draws : Draws) {bound : Nat} (positive : 0 < bound) :
    (draws.below bound).1 < bound := by
  have first : draws.peek 0 + 1 ≤ wordLimit := draws.peek_lt 0
  have second : draws.peek 1 < wordLimit := draws.peek_lt 1
  have limit : 0 < wordLimit := Nat.two_pow_pos 32
  have scaled : draws.peek 0 * bound + bound ≤ wordLimit * bound := by
    have := Nat.mul_le_mul_right bound first
    rwa [Nat.add_mul, Nat.one_mul] at this
  have carried : draws.peek 1 * bound / wordLimit < bound := by
    rw [Nat.div_lt_iff_lt_mul limit, Nat.mul_comm bound]
    exact Nat.mul_lt_mul_of_pos_right second positive
  unfold below
  simp only
  split
  · rw [Nat.div_lt_iff_lt_mul limit, Nat.mul_comm bound]
    omega
  · rw [Nat.div_lt_iff_lt_mul limit, Nat.mul_comm bound]
    omega

end Draws

end Durak
