/-
Values that stay within the range of floating-point numbers.

* `roundSignificant_le`: rounding at most doubles a value, beside one unit;
* `exists_quotient?`: the quotient of integers of at most 1023 binary digits is within
  the range;
* `exists_roundTo?`: **rounding to decimal places never leaves the range**,
  as long as the places are behind the point.
-/
import CausalTrace.Number.Decimal
import Mathlib.Order.Basic

namespace CausalTrace

-- Powers are those of the natural numbers, whichever others are known.
attribute [local instance (high)] instPowNat

/-! ### Bounds on rounding -/

/-- What is cut off in rounding is no more than the value. -/
lemma two_pow_shift_le (n : Nat) : 2 ^ (bitLength n - 53) ≤ n + 1 := by
  by_cases hn : n = 0
  · subst hn
    exact Nat.le_refl 1
  · have hlog : 2 ^ n.log2 ≤ n := Nat.log2_self_le hn
    have hshift : 2 ^ (bitLength n - 53) ≤ 2 ^ n.log2 := by
      rw [bitLength, if_neg hn]
      exact Nat.pow_le_pow_right (by decide) (by omega)
    omega

/-- Rounding at most doubles a value, beside one unit. -/
lemma roundSignificant_le (num den : Nat) : roundSignificant num den ≤ 2 * (num / den) + 1 := by
  have hshift := two_pow_shift_le (num / den)
  rw [roundSignificant]
  generalize 2 ^ (bitLength (num / den) - 53) = unit at hshift ⊢
  calc nearest num (den * unit) * unit
      ≤ (num / (den * unit) + 1) * unit := Nat.mul_le_mul_right _ (nearest_le_div_add_one _ _)
    _ = num / den / unit * unit + unit := by rw [← Nat.div_div_eq_div_mul, Nat.add_one_mul]
    _ ≤ num / den + unit := Nat.add_le_add_right (Nat.div_mul_le_self _ _) _
    _ ≤ 2 * (num / den) + 1 := by omega

/-- A magnitude that needs no rounding is left alone. -/
lemma roundSignificant_mul_right {units den : Nat} (hden : 0 < den)
    (h : 2 ^ (bitLength units - 53) ∣ units) : roundSignificant (units * den) den = units := by
  rw [roundSignificant, Nat.mul_div_cancel _ hden]
  have hunit : 0 < 2 ^ (bitLength units - 53) := Nat.two_pow_pos _
  generalize 2 ^ (bitLength units - 53) = unit at h hunit ⊢
  obtain ⟨digits, rfl⟩ := h
  rw [Nat.mul_comm unit digits, Nat.mul_assoc, Nat.mul_comm unit den,
    nearest_mul_right _ (Nat.mul_pos hden hunit)]

namespace Binary64

lemma one_pos : 0 < one := by
  unfold one
  apply Nat.two_pow_pos

/-- A magnitude within the range gives a finite value. -/
lemma exists_finite?_ofMagnitude {num den : Nat} (negative : Bool)
    (h : roundSignificant num den < magnitudeLimit) :
    ∃ x, (ofMagnitude negative num den).finite? = some x := by
  rw [ofMagnitude, dif_pos h]
  exact ⟨_, rfl⟩

/-- A number of at most 1024 binary digits is within the range. -/
lemma two_pow_mul_one_le {digits : Nat} (h : digits ≤ 1024) :
    2 ^ digits * one ≤ magnitudeLimit := by
  -- the exponents are named, so that the powers are never worked out
  obtain ⟨unit, hunit⟩ : ∃ unit : Nat, unit = 1074 := ⟨_, rfl⟩
  obtain ⟨limit, hlimit⟩ : ∃ limit : Nat, limit = 2098 := ⟨_, rfl⟩
  rw [one, magnitudeLimit, ← hunit, ← hlimit, ← Nat.pow_add]
  exact Nat.pow_le_pow_right (by decide) (by omega)

/-- Below half of the limit there is room for rounding. -/
lemma roundSignificant_lt {num den digits : Nat} (hdigits : digits < 1024)
    (h : num / den < 2 ^ digits * one) : roundSignificant num den < magnitudeLimit := by
  have hle := roundSignificant_le num den
  have hlimit := two_pow_mul_one_le (Nat.succ_le_of_lt hdigits)
  rw [Nat.pow_succ, Nat.mul_comm _ 2, Nat.mul_assoc] at hlimit
  omega

/-! ### Quotients -/

/-- The quotient of integers of at most 1023 binary digits is within the
range. -/
lemma exists_quotient? {num : Int} {digits : Nat} (den : Nat) (hdigits : digits < 1024)
    (h : num.natAbs < 2 ^ digits) : ∃ x, quotient? num den = some x := by
  refine exists_finite?_ofMagnitude _ (roundSignificant_lt hdigits ?_)
  calc num.natAbs * one / den ≤ num.natAbs * one := Nat.div_le_self _ _
    _ < 2 ^ digits * one := Nat.mul_lt_mul_of_pos_right h one_pos

/-! ### Decimal places -/

/-- A magnitude that is not a whole number has few digits before the
point. -/
lemma lt_of_not_one_dvd {units : Nat} (h : Representable units) (hone : ¬ one ∣ units) :
    units < 2 ^ (53 : Nat) * one := by
  obtain ⟨unit, hunit⟩ : ∃ unit : Nat, unit = 1074 := ⟨_, rfl⟩
  rw [one, ← hunit] at hone ⊢
  have hshift : bitLength units - 53 < unit := by
    by_contra hge
    exact hone (Nat.dvd_trans (Nat.pow_dvd_pow 2 (Nat.le_of_not_lt hge)) h.2)
  calc units < 2 ^ bitLength units := lt_two_pow_bitLength units
    _ ≤ 2 ^ (53 + unit) := Nat.pow_le_pow_right (by decide) (by omega)
    _ = 2 ^ (53 : Nat) * 2 ^ unit := Nat.pow_add 2 53 unit

/-- Rounding to decimal places behind the point keeps a magnitude within the
range: a whole number stays as it is, and any other is far from the limit. -/
lemma roundSignificant_nearest_lt {units scale : Nat} (h : Representable units)
    (hscale : 0 < scale) :
    roundSignificant (nearest (units * scale) one * one) scale < magnitudeLimit := by
  by_cases hdvd : one ∣ units
  · have hwhole : units / one * one = units := Nat.div_mul_cancel hdvd
    generalize units / one = whole at hwhole
    subst hwhole
    have hnearest : nearest (whole * one * scale) one = whole * scale := by
      rw [Nat.mul_right_comm, nearest_mul_right _ one_pos]
    rw [hnearest, Nat.mul_right_comm, roundSignificant_mul_right hscale h.2]
    exact h.1
  · have hunits := lt_of_not_one_dvd h hdvd
    refine roundSignificant_lt (show 54 < 1024 by decide) ?_
    calc nearest (units * scale) one * one / scale
        ≤ (units * scale / one + 1) * one / scale :=
          Nat.div_le_div_right (Nat.mul_le_mul_right _ (nearest_le_div_add_one _ _))
      _ ≤ (units * scale + one * scale) / scale := by
          refine Nat.div_le_div_right ?_
          rw [Nat.add_one_mul]
          exact Nat.add_le_add (Nat.div_mul_le_self _ _) (Nat.le_mul_of_pos_right _ hscale)
      _ = units + one := by rw [← Nat.add_mul, Nat.mul_div_cancel _ hscale]
      _ < 2 ^ (54 : Nat) * one := by
          rw [Nat.pow_succ, Nat.mul_two, Nat.add_mul]
          have hone : one ≤ 2 ^ (53 : Nat) * one := Nat.le_mul_of_pos_left _ (Nat.two_pow_pos _)
          omega

/-- **Rounding to decimal places behind the point never leaves the range.** -/
lemma exists_roundTo? {places : Int} (h : 0 ≤ places) (x : Binary64) :
    ∃ y, x.roundTo? places = some y := by
  cases x with
  | finite negative units hunits =>
    obtain ⟨digits, hdigits⟩ : ∃ digits : Nat, max (-309) (min places 324) = digits :=
      ⟨(max (-309) (min places 324)).toNat, by omega⟩
    have hscale : 0 < 10 ^ digits := Nat.pow_pos (by decide)
    have hlt := roundSignificant_nearest_lt hunits hscale
    have hten : tenPower (digits : Int) = (10 ^ digits, 1) := rfl
    simp only [roundTo?, hdigits, hten, Nat.mul_one]
    exact exists_finite?_ofMagnitude negative hlt
  | infinite negative => exact ⟨_, rfl⟩
  | nan => exact ⟨_, rfl⟩

end Binary64
end CausalTrace
