/-
Texts without blanks at their ends, ASCII digits, and numbers that can be written.

* `exists_append_trim`, `trim_append`, `trim_eq_self_of_forall`: what trimming takes away;
* `decimalDigit?_of_isDigit`: ASCII digits are decimal digits;
* `isWritable_of_natAbs_lt`: integers of at most 4300 binary digits are not too long.
-/
import CausalTrace.Text.Numeral
import Mathlib.Data.List.TakeWhile

namespace CausalTrace

-- Powers are those of the natural numbers, whichever others are known.
attribute [local instance (high)] instPowNat

variable {c : Char} {text rest front back : List Char} {drops : Char → Bool}

/-! ### Trimming -/

/-- Nothing is dropped from a text without the characters of a class. -/
lemma dropWhile_eq_self_of_forall (h : ∀ c ∈ text, drops c = false) :
    text.dropWhile drops = text := by
  rw [List.dropWhile_eq_self_iff]
  intro hlength
  simp [h _ (List.getElem_mem hlength)]

/-- Nothing is dropped from a text that starts with it. -/
lemma dropWhile_append_of_forall (h : ∀ c ∈ text, drops c = false) (hne : text ≠ []) :
    (text ++ rest).dropWhile drops = text ++ rest := by
  obtain ⟨c, others, rfl⟩ := List.exists_cons_of_ne_nil hne
  rw [List.cons_append, List.dropWhile_cons_of_neg (by simp [h c List.mem_cons_self])]

/-- Nothing is taken from a text without the characters of a class. -/
lemma takeWhile_eq_nil_of_forall (h : ∀ c ∈ text, drops c = false) :
    text.takeWhile drops = [] := by
  cases text with
  | nil => rfl
  | cons c others => rw [List.takeWhile_cons_of_neg (by simp [h c List.mem_cons_self])]

/-- A text without blanks is trimmed already. -/
lemma trim_eq_self_of_forall (h : ∀ c ∈ text, isBlank c = false) : trim text = text := by
  rw [trim, trimBoth, dropWhile_eq_self_of_forall h,
    dropWhile_eq_self_of_forall (by simpa using h), List.reverse_reverse]

/-- What trimming takes away. -/
lemma exists_append_trim (text : List Char) :
    ∃ front back, text = front ++ trim text ++ back ∧ (∀ c ∈ front, isBlank c) ∧
      ∀ c ∈ back, isBlank c := by
  refine ⟨text.takeWhile isBlank,
    ((text.dropWhile isBlank).reverse.takeWhile isBlank).reverse, ?_,
    fun c => List.mem_takeWhile_imp, fun c hc => List.mem_takeWhile_imp (List.mem_reverse.1 hc)⟩
  rw [trim, trimBoth, List.append_assoc, ← List.reverse_append, List.takeWhile_append_dropWhile,
    List.reverse_reverse, List.takeWhile_append_dropWhile]

/-- Trimming takes away the blanks around a text without any. -/
lemma trim_append (hfront : ∀ c ∈ front, isBlank c) (hback : ∀ c ∈ back, isBlank c)
    (h : ∀ c ∈ text, isBlank c = false) (hne : text ≠ []) :
    trim (front ++ text ++ back) = text := by
  have hback' : ∀ c ∈ back.reverse, isBlank c := fun c hc => hback c (List.mem_reverse.1 hc)
  have htext : ∀ c ∈ text.reverse, isBlank c = false := fun c hc => h c (List.mem_reverse.1 hc)
  rw [trim, trimBoth, List.append_assoc, List.dropWhile_append_of_pos hfront,
    dropWhile_append_of_forall h hne, List.reverse_append, List.dropWhile_append_of_pos hback',
    dropWhile_eq_self_of_forall htext, List.reverse_reverse]

/-! ### ASCII digits -/

/-- The code points of the ASCII digits. -/
lemma toNat_of_isDigit (h : c.isDigit = true) : 48 ≤ c.toNat ∧ c.toNat ≤ 57 := by
  simp only [Char.isDigit, Bool.and_eq_true, decide_eq_true_eq] at h
  exact ⟨UInt32.le_iff_toNat_le.1 h.1, UInt32.le_iff_toNat_le.1 h.2⟩

lemma decimalDigit?_of_isDigit (h : c.isDigit = true) :
    decimalDigit? c = some (c.toNat - '0'.toNat) := by
  have hrange := toNat_of_isDigit h
  rw [decimalDigit?, digitZeros, List.find?_cons_of_pos (by simp; omega)]
  rfl

/-! ### Numbers that can be written -/

/-- An integer of no more binary digits than a numeral may have decimal ones
is not too long. -/
lemma isWritable_of_natAbs_lt {value : Int} {digits : Nat} (hdigits : digits ≤ digitLimit)
    (h : value.natAbs < 2 ^ digits) : isWritable value = true := by
  rw [isWritable_iff]
  calc value.natAbs < 2 ^ digits := h
    _ ≤ 10 ^ digits := Nat.pow_le_pow_left (by decide) _
    _ ≤ 10 ^ digitLimit := Nat.pow_le_pow_right (by decide) hdigits

end CausalTrace
