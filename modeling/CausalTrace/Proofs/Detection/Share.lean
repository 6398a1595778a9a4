/-
Shares in percent, and the exact ratios that they are rounded from.

* `percentage_natCast`: a share is rounded twice, after the division and after the
  multiplication;
* `exists_percentage_le`, `percentage_le`: **a share of a smaller ratio is no greater**;
* `percentage_whole`, `percentage_half`: the shares of a whole and of half of it;
  `exists_percentage_of_le`: so every part of a whole has a share.
-/
import CausalTrace.Failure
import CausalTrace.Proofs.Number.Monotone

namespace CausalTrace

-- Powers are those of the natural numbers, whichever others are known.
attribute [local instance (high)] instPowNat

open Binary64 (one ofMagnitude)

/-- A share is rounded after the division and again after the multiplication. -/
lemma percentage_natCast (part : Nat) {whole : Nat} (hwhole : 0 < whole) :
    percentage part whole =
      if roundSignificant (part * one) whole < magnitudeLimit then
        .ok (ofMagnitude false (roundSignificant (part * one) whole * (100 * one)) one)
      else .error .quotient := by
  have hpart : decide ((part : Int) < 0) = false := decide_eq_false (by omega)
  rw [percentage, if_neg (by omega), Binary64.quotient?, hpart, Int.natAbs_natCast,
    Int.toNat_natCast, ofMagnitude]
  split_ifs
  · rw [Binary64.ofNat_eq_finite (show 100 < 2 ^ (53 : Nat) by decide)]
    rfl
  · rfl

/-- **The share of a smaller ratio is no greater**, and within the range if that of the
greater ratio is. -/
lemma exists_percentage_le {part whole part' whole' : Int} {share' : Binary64}
    (hpart : 0 ≤ part) (hwhole : 0 < whole) (hwhole' : 0 < whole')
    (hle : part * whole' ≤ part' * whole) (h' : percentage part' whole' = .ok share') :
    ∃ share, percentage part whole = .ok share ∧ share.le share' := by
  have hpart' : 0 ≤ part' := by
    have hprod : 0 ≤ part' * whole := Int.le_trans (Int.mul_nonneg hpart (Int.le_of_lt hwhole')) hle
    exact Int.nonneg_of_mul_nonneg_left hprod hwhole
  obtain ⟨a, rfl⟩ := Int.eq_ofNat_of_zero_le hpart
  obtain ⟨b, rfl⟩ := Int.eq_ofNat_of_zero_le (Int.le_of_lt hwhole)
  obtain ⟨a', rfl⟩ := Int.eq_ofNat_of_zero_le hpart'
  obtain ⟨b', rfl⟩ := Int.eq_ofNat_of_zero_le (Int.le_of_lt hwhole')
  rw [Int.natCast_pos] at hwhole hwhole'
  have hratio : a * one * b' ≤ a' * one * b := by
    rw [Nat.mul_right_comm, Nat.mul_right_comm a']
    exact Nat.mul_le_mul_right one (by exact_mod_cast hle)
  have hround := roundSignificant_mono hwhole hwhole' hratio
  rw [percentage_natCast a' hwhole'] at h'
  rw [percentage_natCast a hwhole]
  split at h'
  · rename_i hlt
    obtain rfl := Except.ok.inj h'
    rw [if_pos (Nat.lt_of_le_of_lt hround hlt)]
    refine ⟨_, rfl, Binary64.le_ofMagnitude Binary64.one_pos Binary64.one_pos ?_⟩
    exact Nat.mul_le_mul_right _ (Nat.mul_le_mul_right _ hround)
  · cases h'

lemma percentage_le {part whole part' whole' : Int} {share share' : Binary64} (hpart : 0 ≤ part)
    (hwhole : 0 < whole) (hwhole' : 0 < whole') (hle : part * whole' ≤ part' * whole)
    (h : percentage part whole = .ok share) (h' : percentage part' whole' = .ok share') :
    share.le share' := by
  obtain ⟨other, hother, hbound⟩ := exists_percentage_le hpart hwhole hwhole' hle h'
  obtain rfl := Except.ok.inj (h.symm.trans hother)
  exact hbound

/-- The whole is a hundred percent. -/
lemma percentage_whole : percentage 1 1 = .ok (.ofNat 100) := by
  decide +kernel

/-- One half is fifty percent. -/
lemma percentage_half : percentage 1 2 = .ok (.ofNat 50) := by
  decide +kernel

/-- A part that is no more than the whole has a share in percent. -/
lemma exists_percentage_of_le {part whole : Int} (hnonneg : 0 ≤ part) (hle : part ≤ whole) :
    ∃ share, percentage part whole = .ok share := by
  by_cases hwhole : 0 < whole
  · obtain ⟨share, hshare, -⟩ :=
      exists_percentage_le hnonneg hwhole Int.one_pos (by omega) percentage_whole
    exact ⟨share, hshare⟩
  · exact ⟨_, if_pos (Int.not_lt.1 hwhole)⟩

end CausalTrace
