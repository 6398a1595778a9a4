/-
The hexadecimal fields of a header.

* `LosesDigit`: a field with a newline in the place of its last digit;
* `hexField_eq_ok_iff`: a field is accepted exactly for the bytes that it
  writes; `exists_hexField_eq_ok`: it writes some if it has two digits for
  each;
* `hexField_eq_error_iff`: a field without its last digit is told apart from
  all others that are refused.
-/
import CausalTrace.Proofs.Text.Hex
import CausalTrace.TraceHeader
import Mathlib.Data.List.Basic

namespace CausalTrace
namespace TraceHeader

variable {size : Nat} {fault error : HeaderError} {field digits : List Char} {id : Ident size}

/-- A field of a given length with a newline in the place of its last digit. -/
def LosesDigit (size : Nat) (field : List Char) : Prop :=
  ∃ digits, IsHexText (size - 1) digits ∧ field = digits ++ ['\n']

/-- Digits pass the check of the characters, with or without a newline behind
them. -/
lemma isHexField_of_isHexText (hsize : 0 < size) (h : IsHexText size digits) :
    isHexField digits = true ∧ isHexField (digits ++ ['\n']) = true := by
  have hne : digits ≠ [] := List.ne_nil_of_length_pos (h.length_eq ▸ hsize)
  have hall : (digits.all fun c => (hexDigit? c).isSome) = true :=
    List.all_eq_true.2 fun c hc => isSome_hexDigit?_iff.2 (h.digits c hc)
  have hlast : digits.getLast? ≠ some '\n' := by
    intro hlast
    exact absurd (h.digits _ (List.mem_of_getLast? hlast)) (by decide)
  simp [isHexField, hlast, hne, hall]

/-- Nothing else passes it. -/
lemma isHexText_of_isHexField (h : isHexField field = true) :
    IsHexText field.length field ∨ LosesDigit field.length field := by
  rw [isHexField, Bool.and_eq_true, List.all_eq_true] at h
  obtain ⟨-, hall⟩ := h
  have hdigits := fun c hc => isSome_hexDigit?_iff.1 (hall c hc)
  split at hdigits
  · rename_i hlast
    obtain ⟨digits, rfl⟩ := List.getLast?_eq_some_iff.1 hlast
    rw [List.dropLast_concat] at hdigits
    exact .inr ⟨digits, ⟨by simp, hdigits⟩, rfl⟩
  · exact .inl ⟨rfl, hdigits⟩

/-- A field without its last digit does not write bytes. -/
lemma LosesDigit.bytesOfHex?_eq_none (h : LosesDigit size field) : bytesOfHex? field = none := by
  obtain ⟨digits, -, rfl⟩ := h
  by_contra hne
  obtain ⟨bytes, hbytes⟩ := Option.ne_none_iff_exists'.1 hne
  exact absurd ((isHexText_of_bytesOfHex? hbytes).digits '\n' (by simp)) (by decide)

/-- A field is accepted exactly for the bytes that it writes. -/
lemma hexField_eq_ok_iff (hsize : 0 < size) :
    hexField size fault field = .ok id ↔ bytesOfHex? field = some id.bytes := by
  rw [hexField]
  constructor
  · intro h
    split at h
    · cases h
    · split at h
      · rename_i found hfound
        obtain ⟨bytes, hbytes, hid⟩ := Option.bind_eq_some_iff.1 hfound
        rw [hbytes, Ident.ofBytes?_eq_some_iff.1 hid, Except.ok.inj h]
      · cases h
  · intro h
    have hhex := isHexText_of_bytesOfHex? h
    rw [id.length_eq] at hhex
    have hcheck := (isHexField_of_isHexText (by omega) hhex).1
    have hid : Ident.ofBytes? size id.bytes = some id := Ident.ofBytes?_eq_some_iff.2 rfl
    simp [hhex.length_eq, hcheck, h, hid]

/-- Two digits for each byte write bytes. -/
lemma exists_hexField_eq_ok (fault : HeaderError) (hsize : 0 < size)
    (h : IsHexText (2 * size) field) :
    ∃ id, hexField size fault field = .ok id ∧ bytesOfHex? field = some id.bytes := by
  obtain ⟨id, hid⟩ := exists_bytesOfHex? size h
  exact ⟨id, (hexField_eq_ok_iff hsize).2 hid, hid⟩

/-- **Why a field is refused**: a newline in the place of its last digit is
found when the digits are paired, anything else before. -/
lemma hexField_eq_error_iff (hsize : 0 < size) :
    hexField size fault field = .error error ↔
      (LosesDigit (2 * size) field ∧ error = .strayNewline (2 * size - 1)) ∨
        (¬ LosesDigit (2 * size) field ∧ ¬ IsHexText (2 * size) field ∧ error = fault) := by
  by_cases hhex : IsHexText (2 * size) field
  · -- a sound field is accepted, and no newline is a digit
    obtain ⟨id, hok, hbytes⟩ := exists_hexField_eq_ok fault hsize hhex
    have hloses : ¬ LosesDigit (2 * size) field := by
      intro h
      rw [h.bytesOfHex?_eq_none] at hbytes
      cases hbytes
    simp [hok, hhex, hloses]
  · by_cases hloses : LosesDigit (2 * size) field
    · obtain ⟨digits, hdigits, rfl⟩ := id hloses
      have hlength : (digits ++ ['\n']).length = 2 * size := by
        rw [List.length_append, hdigits.length_eq, List.length_singleton]
        omega
      have hcheck := (isHexField_of_isHexText (by omega) hdigits).2
      have hfield :
          hexField size fault (digits ++ ['\n']) = .error (.strayNewline (2 * size - 1)) := by
        rw [hexField, hloses.bytesOfHex?_eq_none]
        simp [hcheck, hlength]
      simp [hfield, hloses, eq_comm]
    · have hfield : hexField size fault field = .error fault := by
        rw [hexField, if_pos]
        rw [Bool.or_eq_true, decide_eq_true_eq, Bool.not_eq_true']
        by_contra hcheck
        rw [not_or, ne_eq, not_not, Bool.not_eq_false] at hcheck
        have hform := isHexText_of_isHexField hcheck.2
        rw [hcheck.1] at hform
        exact hform.elim hhex hloses
      simp [hfield, hloses, hhex, eq_comm]

end TraceHeader
end CausalTrace
