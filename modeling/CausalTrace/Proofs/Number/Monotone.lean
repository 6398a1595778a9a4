/-
Rounding keeps the order of values.

* `nearest_mono`, `roundSignificant_mono`: **a greater quotient is never rounded to a
  smaller number**, neither to a whole number nor to 53 binary digits;
* `Binary64.le_ofMagnitude`: so floating-point values are in the order of the quotients
  that they are rounded from;
* `Binary64.le_trans`, `Binary64.lt_of_not_le`: the order of values that are numbers;
* `Binary64.ofNat_eq_finite`: small whole numbers are values.
-/
import CausalTrace.Proofs.Number.Range

namespace CausalTrace

-- Powers are those of the natural numbers, whichever others are known.
attribute [local instance (high)] instPowNat

variable {num den num' den' : Nat}

/-! ### Quotients -/

/-- The integer part of a greater quotient is no smaller. -/
lemma div_mono (hden : 0 < den) (hden' : 0 < den') (h : num * den' ≤ num' * den) :
    num / den ≤ num' / den' := by
  rw [Nat.le_div_iff_mul_le hden']
  refine Nat.le_of_mul_le_mul_right ?_ hden
  calc num / den * den' * den = num / den * den * den' := Nat.mul_right_comm ..
    _ ≤ num * den' := Nat.mul_le_mul_right _ (Nat.div_mul_le_self _ _)
    _ ≤ num' * den := h

/-- Of two quotients with one integer part, the greater one has the greater rest. -/
lemma mod_mono (h : num * den' ≤ num' * den) (hdiv : num / den = num' / den') :
    num % den * den' ≤ num' % den' * den := by
  have hnum := Nat.div_add_mod num den
  have hnum' := Nat.div_add_mod num' den'
  rw [← hnum, ← hnum', hdiv, Nat.add_mul, Nat.add_mul, Nat.mul_right_comm den,
    Nat.mul_right_comm den', Nat.mul_comm den den'] at h
  exact Nat.le_of_add_le_add_left h

/-- **A greater quotient is never rounded to a smaller whole number.** -/
lemma nearest_mono (hden : 0 < den) (hden' : 0 < den') (h : num * den' ≤ num' * den) :
    nearest num den ≤ nearest num' den' := by
  rcases Nat.lt_or_eq_of_le (div_mono hden hden' h) with hlt | hdiv
  · calc nearest num den ≤ num / den + 1 := nearest_le_div_add_one _ _
      _ ≤ num' / den' := hlt
      _ ≤ nearest num' den' := div_le_nearest _ _
  · -- both are rounded up from the same integer part, if the smaller one is
    have hmod : 2 * (num % den) * den' ≤ 2 * (num' % den') * den := by
      rw [Nat.mul_assoc, Nat.mul_assoc]
      exact Nat.mul_le_mul_left 2 (mod_mono h hdiv)
    have hhalf : den ≤ 2 * (num % den) → den' ≤ 2 * (num' % den') := by
      intro hle
      refine Nat.le_of_mul_le_mul_left ?_ hden
      calc den * den' ≤ 2 * (num % den) * den' := Nat.mul_le_mul_right _ hle
        _ ≤ 2 * (num' % den') * den := hmod
        _ = den * (2 * (num' % den')) := Nat.mul_comm _ _
    have hmore : den < 2 * (num % den) → den' < 2 * (num' % den') := by
      intro hlt
      refine Nat.lt_of_mul_lt_mul_left (a := den) ?_
      calc den * den' < 2 * (num % den) * den' := Nat.mul_lt_mul_of_pos_right hlt hden'
        _ ≤ 2 * (num' % den') * den := hmod
        _ = den * (2 * (num' % den')) := Nat.mul_comm _ _
    simp only [nearest, hdiv]
    split_ifs <;> omega

/-! ### Significant digits -/

/-- A greater number has no fewer digits. -/
lemma bitLength_mono {n m : Nat} (h : n ≤ m) : bitLength n ≤ bitLength m :=
  bitLength_le (Nat.lt_of_le_of_lt h (lt_two_pow_bitLength m))

/-- A number of more than 53 digits is at least the power of two of 52 of them, in units
of its last digit that counts. -/
lemma two_pow_mul_le_of_bitLength {n : Nat} (h : 53 < bitLength n) :
    2 ^ (52 : Nat) * 2 ^ (bitLength n - 53) ≤ n := by
  have hn : n ≠ 0 := by
    rintro rfl
    simp [bitLength] at h
  have hlog : 2 ^ n.log2 ≤ n := Nat.log2_self_le hn
  have hlength : bitLength n = n.log2 + 1 := by rw [bitLength, if_neg hn]
  rwa [← Nat.pow_add, show 52 + (bitLength n - 53) = n.log2 by omega]

/-- **A greater quotient is never rounded to a smaller number** of 53 binary digits. -/
lemma roundSignificant_mono (hden : 0 < den) (hden' : 0 < den') (h : num * den' ≤ num' * den) :
    roundSignificant num den ≤ roundSignificant num' den' := by
  have hshift : bitLength (num / den) - 53 ≤ bitLength (num' / den') - 53 :=
    Nat.sub_le_sub_right (bitLength_mono (div_mono hden hden' h)) 53
  rcases Nat.lt_or_eq_of_le hshift with hlt | heq
  · -- the greater one has more digits, and a power of two lies between them
    have hlong := two_pow_mul_le_of_bitLength (n := num' / den') (by omega)
    have hsmall := nearest_le_two_pow num den
    rw [roundSignificant, roundSignificant]
    generalize bitLength (num / den) - 53 = shift at hlt hsmall ⊢
    generalize bitLength (num' / den') - 53 = shift' at hlt hlong ⊢
    calc nearest num (den * 2 ^ shift) * 2 ^ shift
        ≤ 2 ^ (53 : Nat) * 2 ^ shift := Nat.mul_le_mul_right _ hsmall
      _ = 2 ^ (52 : Nat) * 2 ^ (shift + 1) := by rw [← Nat.pow_add, ← Nat.pow_add]; congr 1; omega
      _ ≤ 2 ^ (52 : Nat) * 2 ^ shift' :=
          Nat.mul_le_mul_left _ (Nat.pow_le_pow_right (by decide) hlt)
      _ ≤ num' / (den' * 2 ^ shift') * 2 ^ shift' := by
          refine Nat.mul_le_mul_right _ ?_
          rwa [← Nat.div_div_eq_div_mul, Nat.le_div_iff_mul_le (Nat.two_pow_pos _)]
      _ ≤ nearest num' (den' * 2 ^ shift') * 2 ^ shift' :=
          Nat.mul_le_mul_right _ (div_le_nearest _ _)
  · rw [roundSignificant, roundSignificant, heq]
    have hunit : 0 < 2 ^ (bitLength (num' / den') - 53) := Nat.two_pow_pos _
    generalize 2 ^ (bitLength (num' / den') - 53) = unit at hunit ⊢
    refine Nat.mul_le_mul_right _ (nearest_mono (Nat.mul_pos hden hunit)
      (Nat.mul_pos hden' hunit) ?_)
    rw [← Nat.mul_assoc, ← Nat.mul_assoc]
    exact Nat.mul_le_mul_right _ h

/-- A quotient that is no more than a number of 53 binary digits is not rounded to more. -/
lemma roundSignificant_le_of_dvd {units : Nat} (hden : 0 < den)
    (hunits : 2 ^ (bitLength units - 53) ∣ units) (h : num ≤ units * den) :
    roundSignificant num den ≤ units := by
  calc roundSignificant num den ≤ roundSignificant (units * 1) 1 :=
        roundSignificant_mono hden Nat.one_pos (by simpa using h)
    _ = units := roundSignificant_mul_right Nat.one_pos hunits

namespace Binary64

/-! ### The order of values -/

variable {x y z : Binary64}

/-- Values are compared by their places. -/
lemma le_iff : x.le y ↔ ∃ a b, x.position? = some a ∧ y.position? = some b ∧ a ≤ b := by
  rw [le]
  cases x.position? <;> cases y.position? <;> simp

lemma lt_iff : x.lt y ↔ ∃ a b, x.position? = some a ∧ y.position? = some b ∧ a < b := by
  rw [lt]
  cases x.position? <;> cases y.position? <;> simp

lemma le_trans (hxy : x.le y) (hyz : y.le z) : x.le z := by
  obtain ⟨a, b, hx, hy, hab⟩ := le_iff.1 hxy
  obtain ⟨b', c, hy', hz, hbc⟩ := le_iff.1 hyz
  obtain rfl : b = b' := Option.some.inj (hy.symm.trans hy')
  exact le_iff.2 ⟨a, c, hx, hz, Int.le_trans hab hbc⟩

lemma lt_of_lt_of_le (hxy : x.lt y) (hyz : y.le z) : x.lt z := by
  obtain ⟨a, b, hx, hy, hab⟩ := lt_iff.1 hxy
  obtain ⟨b', c, hy', hz, hbc⟩ := le_iff.1 hyz
  obtain rfl : b = b' := Option.some.inj (hy.symm.trans hy')
  exact lt_iff.2 ⟨a, c, hx, hz, Int.lt_of_lt_of_le hab hbc⟩

/-- What is no number has no place, and all else has one. -/
lemma exists_position? (h : x ≠ nan) : ∃ a, x.position? = some a := by
  cases x with
  | finite negative units _ => exact ⟨_, rfl⟩
  | infinite negative => exact ⟨_, rfl⟩
  | nan => exact absurd rfl h

/-- What is below or equal to a value is a number. -/
lemma ne_nan_of_le (h : x.le y) : x ≠ nan := by
  rintro rfl
  obtain ⟨_, _, hnan, -⟩ := le_iff.1 h
  cases hnan

/-- Of two numbers, one that is not below or equal is above. -/
lemma lt_of_not_le (hx : x ≠ nan) (hy : y ≠ nan) (h : ¬ x.le y) : y.lt x := by
  obtain ⟨a, ha⟩ := exists_position? hx
  obtain ⟨b, hb⟩ := exists_position? hy
  refine lt_iff.2 ⟨b, a, hb, ha, ?_⟩
  by_contra hle
  exact h (le_iff.2 ⟨a, b, ha, hb, Int.not_lt.1 hle⟩)

/-- A rounded quotient is at its place, or at that of infinity. -/
lemma position?_ofMagnitude (num den : Nat) : (ofMagnitude false num den).position? =
    some ((min (roundSignificant num den) magnitudeLimit : Nat) : Int) := by
  rw [ofMagnitude]
  split
  · rename_i hlt
    rw [Nat.min_eq_left (Nat.le_of_lt hlt)]
    rfl
  · rename_i hge
    rw [Nat.min_eq_right (Nat.le_of_not_lt hge)]
    rfl

/-- **Rounded quotients are in the order of the quotients.** -/
lemma le_ofMagnitude (hden : 0 < den) (hden' : 0 < den') (h : num * den' ≤ num' * den) :
    (ofMagnitude false num den).le (ofMagnitude false num' den') := by
  have hmono := roundSignificant_mono hden hden' h
  refine le_iff.2 ⟨_, _, position?_ofMagnitude _ _, position?_ofMagnitude _ _, ?_⟩
  omega

/-! ### Whole numbers -/

/-- A whole number of at most 53 binary digits is a magnitude. -/
lemma representable_mul_one {n : Nat} (h : n < 2 ^ (53 : Nat)) : Representable (n * one) := by
  constructor
  · calc n * one < 2 ^ (53 : Nat) * one := Nat.mul_lt_mul_of_pos_right h one_pos
      _ ≤ magnitudeLimit := two_pow_mul_one_le (by decide)
  · obtain ⟨unit, hunit⟩ : ∃ unit : Nat, unit = 1074 := ⟨_, rfl⟩
    rw [one, ← hunit]
    have hlength : bitLength (n * 2 ^ unit) ≤ 53 + unit := by
      refine bitLength_le ?_
      rw [Nat.pow_add]
      exact Nat.mul_lt_mul_of_pos_right h (Nat.two_pow_pos _)
    exact Nat.dvd_trans (Nat.pow_dvd_pow 2 (by omega)) (Nat.dvd_mul_left _ _)

/-- A whole number of at most 53 binary digits is a value. -/
lemma ofNat_eq_finite {n : Nat} (h : n < 2 ^ (53 : Nat)) :
    ofNat n = finite false (n * one) (representable_mul_one h) := by
  have hround : roundSignificant (n * one) 1 = n * one := by
    simpa using roundSignificant_mul_right Nat.one_pos (representable_mul_one h).2
  have hlt : roundSignificant (n * one) 1 < magnitudeLimit := by
    rw [hround]
    exact (representable_mul_one h).1
  rw [ofNat, ofMagnitude, dif_pos hlt]
  simp only [hround]

end Binary64
end CausalTrace
