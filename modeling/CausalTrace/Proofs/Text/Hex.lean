/-
Which texts are hexadecimal, and what their bytes are written as.

* `hexDigits`, `IsHexText`: the digits of either case, and texts of a given
  number of them;
* `exists_bytesOfHex?`, `isHexText_of_bytesOfHex?`: pairs of digits write
  bytes, and nothing else does;
* `hexBytes_of_bytesOfHex?`: **the bytes that a text writes are written as
  the same text in lower case**;
* `allZero_iff_of_bytesOfHex?`: all bytes are zero if all digits are.
-/
import CausalTrace.Ident
import CausalTrace.Text.Hex
import Mathlib.Data.Bool.AllAny
import Mathlib.Tactic.Lemma

namespace CausalTrace

variable {c : Char} {d size : Nat} {text : List Char} {bytes : List UInt8}

/-! ### Digits -/

/-- The hexadecimal digits of either case. -/
def hexDigits : List Char :=
  "0123456789abcdefABCDEF".toList

/-- A text of a given number of hexadecimal digits. -/
structure IsHexText (size : Nat) (text : List Char) : Prop where
  length_eq : text.length = size
  digits : ∀ c ∈ text, c ∈ hexDigits

/-- A character of a range is listed if the whole range is. -/
lemma mem_of_toNat_range (first count : Nat) {chars : List Char}
    (hall : ∀ n ∈ List.range' first count, Char.ofNat n ∈ chars)
    (hfirst : first ≤ c.toNat) (hlast : c.toNat < first + count) : c ∈ chars := by
  have hmem := hall c.toNat (List.mem_range'_1.2 ⟨hfirst, hlast⟩)
  rwa [Char.ofNat_toNat] at hmem

/-- What has a value is a digit. -/
lemma mem_hexDigits_of_hexDigit? (h : hexDigit? c = some d) : c ∈ hexDigits := by
  simp only [hexDigit?, Char.le_def, UInt32.le_iff_toNat_le] at h
  split at h
  · rename_i hrange
    exact mem_of_toNat_range 48 10 (by decide) hrange.1
      (Nat.lt_succ_of_le hrange.2)
  · split at h
    · rename_i hrange
      exact mem_of_toNat_range 97 6 (by decide) hrange.1
        (Nat.lt_succ_of_le hrange.2)
    · split at h
      · rename_i hrange
        exact mem_of_toNat_range 65 6 (by decide) hrange.1
          (Nat.lt_succ_of_le hrange.2)
      · simp at h

/-- The digits are those that have a value. -/
lemma isSome_hexDigit?_iff : (hexDigit? c).isSome = true ↔ c ∈ hexDigits := by
  constructor
  · intro h
    obtain ⟨d, hd⟩ := Option.isSome_iff_exists.1 h
    exact mem_hexDigits_of_hexDigit? hd
  · exact List.all_eq_true.1 (show hexDigits.all (fun c => (hexDigit? c).isSome) = true by decide) c

/-- The value of a digit is below sixteen and written as the digit in lower
case; only the digit zero has the value zero. -/
lemma digitChar_of_hexDigit? (h : hexDigit? c = some d) :
    d < 16 ∧ d.digitChar = c.toLower ∧ (d = 0 ↔ c = '0') := by
  have hall : ∀ c ∈ hexDigits, ∀ d ∈ hexDigit? c,
      d < 16 ∧ d.digitChar = c.toLower ∧ (d = 0 ↔ c = '0') :=
    List.all_iff_forall_prop.1 (by decide)
  exact hall c (mem_hexDigits_of_hexDigit? h) d h

/-! ### Bytes -/

/-- Only the empty text writes no bytes. -/
lemma eq_nil_of_bytesOfHex? (h : bytesOfHex? text = some []) : text = [] := by
  match text, h with
  | [], _ => rfl
  | high :: low :: rest, h => simp [bytesOfHex?, Option.bind_eq_some_iff] at h

/-- The first byte of a text is that of its first two digits. -/
lemma exists_of_bytesOfHex?_eq_cons {byte : UInt8} (h : bytesOfHex? text = some (byte :: bytes)) :
    ∃ high low rest a b, text = high :: low :: rest ∧ hexDigit? high = some a ∧
      hexDigit? low = some b ∧ bytesOfHex? rest = some bytes ∧ byte.toNat = 16 * a + b := by
  match text, h with
  | [], h => simp [bytesOfHex?] at h
  | high :: low :: rest, h =>
    simp only [bytesOfHex?, Option.bind_eq_bind, Option.bind_eq_some_iff, Option.pure_def,
      Option.some.injEq, List.cons.injEq] at h
    obtain ⟨a, ha, b, hb, others, hothers, rfl, rfl⟩ := h
    have ha16 := (digitChar_of_hexDigit? ha).1
    have hb16 := (digitChar_of_hexDigit? hb).1
    have hbyte : (UInt8.ofNat (16 * a + b)).toNat = 16 * a + b :=
      UInt8.toNat_ofNat_of_lt' (by simp [UInt8.size]; omega)
    exact ⟨high, low, rest, a, b, rfl, ha, hb, hothers, hbyte⟩

/-- Pairs of digits write bytes. -/
lemma exists_bytesOfHex? (size : Nat) (h : IsHexText (2 * size) text) :
    ∃ id : Ident size, bytesOfHex? text = some id.bytes := by
  induction size generalizing text with
  | zero =>
    obtain rfl := List.length_eq_zero_iff.1 h.length_eq
    exact ⟨⟨[], rfl⟩, rfl⟩
  | succ size ih =>
    match text, h with
    | high :: low :: rest, h =>
      obtain ⟨a, ha⟩ := Option.isSome_iff_exists.1
        (isSome_hexDigit?_iff.2 (h.digits high (by simp)))
      obtain ⟨b, hb⟩ := Option.isSome_iff_exists.1
        (isSome_hexDigit?_iff.2 (h.digits low (by simp)))
      have hlength := h.length_eq
      rw [List.length_cons, List.length_cons] at hlength
      have hrest : IsHexText (2 * size) rest :=
        ⟨by omega, fun c hc => h.digits c (by simp [hc])⟩
      obtain ⟨id, hid⟩ := ih hrest
      refine ⟨⟨UInt8.ofNat (16 * a + b) :: id.bytes, by simp [id.length_eq]⟩, ?_⟩
      simp [bytesOfHex?, ha, hb, hid]

/-- Nothing else writes bytes. -/
lemma isHexText_of_bytesOfHex? (h : bytesOfHex? text = some bytes) :
    IsHexText (2 * bytes.length) text := by
  induction bytes generalizing text with
  | nil =>
    obtain rfl := eq_nil_of_bytesOfHex? h
    exact ⟨rfl, by simp⟩
  | cons byte bytes ih =>
    obtain ⟨high, low, rest, a, b, rfl, ha, hb, hrest, -⟩ := exists_of_bytesOfHex?_eq_cons h
    obtain ⟨hlength, hdigits⟩ := ih hrest
    refine ⟨by rw [List.length_cons, List.length_cons, List.length_cons, hlength]; omega, ?_⟩
    simp only [List.forall_mem_cons]
    exact ⟨mem_hexDigits_of_hexDigit? ha, mem_hexDigits_of_hexDigit? hb, hdigits⟩

/-- **The bytes that a text writes are written as the same text in lower
case.** -/
lemma hexBytes_of_bytesOfHex? (h : bytesOfHex? text = some bytes) :
    hexBytes bytes = text.map Char.toLower := by
  induction bytes generalizing text with
  | nil =>
    obtain rfl := eq_nil_of_bytesOfHex? h
    rfl
  | cons byte bytes ih =>
    obtain ⟨high, low, rest, a, b, rfl, ha, hb, hrest, hbyte⟩ := exists_of_bytesOfHex?_eq_cons h
    obtain ⟨-, hhigh, -⟩ := digitChar_of_hexDigit? ha
    obtain ⟨hb16, hlow, -⟩ := digitChar_of_hexDigit? hb
    have ha' : (16 * a + b) / 16 = a := by omega
    have hb' : (16 * a + b) % 16 = b := by omega
    rw [hexBytes, hbyte, ha', hb', hhigh, hlow, ih hrest, List.map_cons, List.map_cons]

/-- All bytes that a text writes are zero if all its digits are. -/
lemma allZero_iff_of_bytesOfHex? (h : bytesOfHex? text = some bytes) :
    allZero bytes = true ↔ ∀ c ∈ text, c = '0' := by
  induction bytes generalizing text with
  | nil =>
    obtain rfl := eq_nil_of_bytesOfHex? h
    simp [allZero]
  | cons byte bytes ih =>
    obtain ⟨high, low, rest, a, b, rfl, ha, hb, hrest, hbyte⟩ := exists_of_bytesOfHex?_eq_cons h
    have hzero : byte = 0 ↔ a = 0 ∧ b = 0 := by
      rw [← UInt8.toNat_inj, hbyte]
      simp only [UInt8.toNat_zero]
      omega
    have hothers := ih hrest
    rw [allZero] at hothers ⊢
    simp only [List.all_cons, Bool.and_eq_true, beq_iff_eq, hzero, hothers, List.forall_mem_cons,
      (digitChar_of_hexDigit? ha).2.2, (digitChar_of_hexDigit? hb).2.2, and_assoc]

end CausalTrace
