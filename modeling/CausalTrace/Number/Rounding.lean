/-
Rounding a quotient of natural numbers to a whole number, and to 53
binary digits.

* `nearest`: the whole number nearest to a quotient, a half going to
  the even neighbour; `div_le_nearest` and `nearest_le_div_add_one`
  place it between the two neighbours;
* `roundSignificant`: the nearest number of at most 53 significant
  binary digits;
* `pow_dvd_roundSignificant`: the result of `roundSignificant` has at
  most 53 significant binary digits.
-/
namespace CausalTrace

-- Powers are those of the natural numbers, whichever others are known.
attribute [local instance (high)] instPowNat

/-- The whole number nearest to `num / den`; a half goes to the even
neighbour. -/
def nearest (num den : Nat) : Nat :=
  let low := num / den
  let rest := 2 * (num % den)
  if rest < den ∨ (rest = den ∧ low % 2 = 0) then low else low + 1

/-- Rounding never falls below the integer part. -/
theorem div_le_nearest (num den : Nat) : num / den ≤ nearest num den := by
  simp only [nearest]
  split <;> omega

/-- Rounding never passes the next whole number. -/
theorem nearest_le_div_add_one (num den : Nat) : nearest num den ≤ num / den + 1 := by
  simp only [nearest]
  split <;> omega

/-- A whole quotient is left alone. -/
theorem nearest_mul_right (n : Nat) {den : Nat} (h : 0 < den) :
    nearest (n * den) den = n := by
  have hdiv : n * den / den = n := Nat.mul_div_cancel n h
  simp [nearest, hdiv, h]

/-- The number of binary digits, none for zero. -/
def bitLength (n : Nat) : Nat :=
  if n = 0 then 0 else n.log2 + 1

/-- A number lies below the power of two of its length. -/
theorem lt_two_pow_bitLength (n : Nat) : n < 2 ^ bitLength n := by
  by_cases h : n = 0
  · simp [bitLength, h]
  · simp only [bitLength, h, if_false]
    exact Nat.lt_log2_self

/-- The length of a number below a power of two is at most the
exponent. -/
theorem bitLength_le {n k : Nat} (h : n < 2 ^ k) : bitLength n ≤ k := by
  by_cases h0 : n = 0
  · simp [bitLength, h0]
  · simp only [bitLength, h0, if_false]
    exact (Nat.log2_lt h0).2 h

/-- The length of a power of two. -/
theorem bitLength_two_pow (k : Nat) : bitLength (2 ^ k) = k + 1 := by
  simp [bitLength, Nat.log2_two_pow]

/-- The nearest number to `num / den` that has at most 53 significant
binary digits. -/
def roundSignificant (num den : Nat) : Nat :=
  let shift := bitLength (num / den) - 53
  nearest num (den * 2 ^ shift) * 2 ^ shift

/-- The significand found by rounding has at most 53 binary digits, or
is the next power of two. -/
theorem nearest_le_two_pow (num den : Nat) :
    nearest num (den * 2 ^ (bitLength (num / den) - 53)) ≤ 2 ^ (53 : Nat) := by
  generalize hs : bitLength (num / den) - 53 = s
  have hlt : num / den < 2 ^ (53 : Nat) * 2 ^ s := by
    rw [← Nat.pow_add]
    exact Nat.lt_of_lt_of_le (lt_two_pow_bitLength _)
      (Nat.pow_le_pow_right (by omega) (by omega))
  have hdiv : num / (den * 2 ^ s) < 2 ^ (53 : Nat) := by
    rw [← Nat.div_div_eq_div_mul]
    exact Nat.div_lt_of_lt_mul (by rw [Nat.mul_comm]; exact hlt)
  have := nearest_le_div_add_one num (den * 2 ^ s)
  omega

/-- A rounded number ends in as many binary zeros as it has digits
beyond 53. -/
theorem pow_dvd_roundSignificant (num den : Nat) :
    2 ^ (bitLength (roundSignificant num den) - 53) ∣ roundSignificant num den := by
  have hle := nearest_le_two_pow num den
  simp only [roundSignificant]
  generalize bitLength (num / den) - 53 = s at hle ⊢
  generalize nearest num (den * 2 ^ s) = m at hle ⊢
  rcases Nat.lt_or_eq_of_le hle with hlt | heq
  · have hlen : bitLength (m * 2 ^ s) ≤ 53 + s := by
      apply bitLength_le
      rw [Nat.pow_add]
      exact Nat.mul_lt_mul_of_pos_right hlt (Nat.two_pow_pos s)
    exact Nat.dvd_trans (Nat.pow_dvd_pow 2 (by omega)) (Nat.dvd_mul_left _ _)
  · rw [heq, ← Nat.pow_add, bitLength_two_pow]
    exact Nat.pow_dvd_pow 2 (by omega)

end CausalTrace
