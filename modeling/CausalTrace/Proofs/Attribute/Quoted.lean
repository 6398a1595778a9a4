/-
Quoted text, escaped and read again.

* `hexNumber_four`: a unit is written with four digits;
* `readUnits_escapeChar`: **an escaped character is read as its units**,
  whatever follows it;
* `readUnits_flatMap`, `joinUnits_flatMap`: so a whole text is read up to its
  closing mark, and its units are joined to the same text;
* `isAscii_escapeChar`: what is written is ASCII without control characters.
-/
import CausalTrace.Attribute.Token
import Mathlib.Tactic.Lemma

namespace CausalTrace
namespace Token

variable {c : Char} {text : List Char} {unit : Nat}

-- The equations of the reader are worked out here, once for all proofs below.
attribute [local simp] readUnits

/-! ### Units -/

/-- The units of a character have sixteen bits. -/
lemma lt_of_mem_unitsOf (h : unit ∈ unitsOf c) : unit < 0x10000 := by
  have hvalid := c.valid
  simp only [UInt32.isValidChar, Nat.isValidChar] at hvalid
  have hnat : c.val.toNat = c.toNat := rfl
  rw [unitsOf] at h
  split at h
  · rw [List.mem_singleton] at h
    omega
  · simp only [List.mem_cons, List.not_mem_nil, or_false] at h
    omega

/-- The units of a text are joined to the same text. -/
lemma joinUnits_flatMap (text : List Char) : joinUnits (text.flatMap unitsOf) = text := by
  induction text with
  | nil => rfl
  | cons c text ih => rw [List.flatMap_cons, joinUnits_unitsOf, ih]

/-- The last digit of a number stands behind those of its other part. -/
lemma hexNumber_succ {width : Nat} (hwidth : 0 < width) (n : Nat) :
    hexNumber (width + 1) n = hexNumber width (n / 16) ++ [(n % 16).digitChar] := by
  simp only [hexNumber]
  rcases Nat.lt_or_ge n 16 with hlt | hge
  · obtain ⟨zeros, rfl⟩ := Nat.exists_eq_add_of_lt hwidth
    rw [Nat.toDigits_of_lt_base hlt, Nat.div_eq_of_lt hlt, Nat.mod_eq_of_lt hlt, Nat.toDigits_zero]
    simp [List.replicate_succ']
  · rw [Nat.toDigits_of_base_le (by decide) hge, List.length_append, List.length_singleton,
      Nat.add_sub_add_right, List.append_assoc]

/-- A unit is written with four digits. -/
lemma hexNumber_four (h : unit < 0x10000) :
    hexNumber 4 unit = [(unit / 0x1000).digitChar, (unit / 0x100 % 0x10).digitChar,
      (unit / 0x10 % 0x10).digitChar, (unit % 0x10).digitChar] := by
  have hlast : unit / 16 / 16 / 16 < 16 := by omega
  rw [hexNumber_succ (by decide), hexNumber_succ (by decide), hexNumber_succ (by decide),
    hexNumber, Nat.toDigits_of_lt_base hlast]
  simp [Nat.div_div_eq_div_mul]

/-- Four digits that were written are read as the unit. -/
lemma hexUnit?_digits (h : unit < 0x10000) :
    hexUnit? (unit / 0x1000).digitChar (unit / 0x100 % 0x10).digitChar
      (unit / 0x10 % 0x10).digitChar (unit % 0x10).digitChar = some unit := by
  have hdigit : ∀ {d : Nat}, d < 16 → hexDigit? d.digitChar = some d := hexDigit?_digitChar
  rw [hexUnit?, hdigit (by omega), hdigit (by omega), hdigit (by omega), hdigit (by omega)]
  simp only [Option.bind_eq_bind, Option.bind_some, Option.pure_def, Option.some.injEq]
  omega

/-! ### Escapes -/

/-- Units in front of what is read. -/
def unitsBefore (units : List Nat) (read : Option (List Nat × List Char)) :
    Option (List Nat × List Char) :=
  read.map fun (more, behind) => (units ++ more, behind)

/-- An escaped unit is read as the unit. -/
lemma readUnits_escapedUnit (h : unit < 0x10000) :
    readUnits ('\\' :: 'u' :: (hexNumber 4 unit ++ text)) =
      unitsBefore [unit] (readUnits text) := by
  rw [hexNumber_four h]
  simp only [List.cons_append, List.nil_append]
  rw [readUnits, hexUnit?_digits h]
  cases readUnits text <;> rfl

/-- Escaped units are read one after the other. -/
lemma readUnits_escapedUnits (units : List Nat) (h : ∀ unit ∈ units, unit < 0x10000) :
    readUnits ((units.flatMap fun unit => '\\' :: 'u' :: hexNumber 4 unit) ++ text) =
      unitsBefore units (readUnits text) := by
  induction units with
  | nil => cases hread : readUnits text <;> simp [unitsBefore, hread]
  | cons unit units ih =>
    rw [List.forall_mem_cons] at h
    rw [List.flatMap_cons, List.append_assoc, List.cons_append, List.cons_append,
      readUnits_escapedUnit h.1, ih h.2]
    cases readUnits text <;> rfl

/-- What the short escapes stand for is one unit, and their letters are not that
of the long ones. -/
lemma readUnits_shortEscape {letter : Char} (h : (letter, c) ∈ shortEscapes) :
    readUnits ('\\' :: letter :: text) = unitsBefore (unitsOf c) (readUnits text) := by
  have hall : ∀ entry ∈ shortEscapes, entry.1 ≠ 'u' ∧ unescape? entry.1 = some entry.2 ∧
      unitsOf entry.2 = [entry.2.toNat] := by decide
  obtain ⟨hletter, hread, hunits⟩ := hall _ h
  rw [readUnits, hread, hunits]
  · cases readUnits text <;> rfl
  · exact fun _ _ _ _ _ heq _ => hletter heq

/-- A plain character is read as it is. -/
lemma readUnits_plain (hquote : c ≠ '"') (hslash : c ≠ '\\') (hspace : 0x20 ≤ c.toNat)
    (htilde : c.toNat < 0x7F) :
    readUnits (c :: text) = unitsBefore (unitsOf c) (readUnits text) := by
  have hunits : unitsOf c = [c.toNat] := if_pos (by omega)
  rw [readUnits, if_neg (by omega), hunits]
  · cases readUnits text <;> rfl
  · exact hquote
  · exact fun _ _ _ _ _ heq _ => hslash heq
  · exact fun _ _ heq _ => hslash heq

/-- **An escaped character is read as its units.** -/
lemma readUnits_escapeChar :
    readUnits (escapeChar c ++ text) = unitsBefore (unitsOf c) (readUnits text) := by
  rw [escapeChar]
  split
  · rename_i letter c' hfind
    obtain rfl : c' = c := by simpa using List.find?_some hfind
    exact readUnits_shortEscape (List.mem_of_find?_eq_some hfind)
  · rename_i hfind
    have hplain : ∀ entry ∈ shortEscapes, entry.2 ≠ c := by
      simpa using hfind
    split
    · rename_i hrange
      exact readUnits_plain (hplain ('"', '"') (by decide)).symm
        (hplain ('\\', '\\') (by decide)).symm hrange.1 hrange.2
    · exact readUnits_escapedUnits _ fun unit => lt_of_mem_unitsOf

/-- A whole text is read up to its closing mark. -/
lemma readUnits_flatMap (value rest : List Char) :
    readUnits (value.flatMap escapeChar ++ '"' :: rest) = some (value.flatMap unitsOf, rest) := by
  induction value with
  | nil => rw [List.flatMap_nil, List.nil_append, readUnits, List.flatMap_nil]
  | cons c value ih =>
    rw [List.flatMap_cons, List.append_assoc, readUnits_escapeChar, ih, List.flatMap_cons]
    rfl

/-! ### Characters -/

/-- A character from the space to the tilde. -/
def IsAscii (c : Char) : Prop :=
  0x20 ≤ c.toNat ∧ c.toNat ≤ 0x7E

instance : DecidablePred IsAscii :=
  fun c => inferInstanceAs (Decidable (0x20 ≤ c.toNat ∧ c.toNat ≤ 0x7E))

/-- Hexadecimal digits are ASCII. -/
lemma isAscii_digitChar {d : Nat} (h : d < 16) : IsAscii d.digitChar := by
  have hall : ∀ d < 16, IsAscii d.digitChar := by decide
  exact hall d h

/-- An escaped character is ASCII, whatever character it is. -/
lemma isAscii_escapeChar : ∀ d ∈ escapeChar c, IsAscii d := by
  have hslash : IsAscii '\\' := by decide
  have hletter : IsAscii 'u' := by decide
  rw [escapeChar]
  split
  · rename_i letter c' hfind
    have hall : ∀ entry ∈ shortEscapes, IsAscii entry.1 := by decide
    simp only [List.forall_mem_cons]
    exact ⟨hslash, hall _ (List.mem_of_find?_eq_some hfind), by simp⟩
  · split
    · rename_i hrange
      simp only [List.forall_mem_cons, IsAscii]
      exact ⟨⟨hrange.1, by omega⟩, by simp⟩
    · refine List.forall_mem_flatMap.2 fun unit hunit => ?_
      have hlt := lt_of_mem_unitsOf hunit
      rw [hexNumber_four hlt]
      simp only [List.forall_mem_cons]
      exact ⟨hslash, hletter, isAscii_digitChar (by omega), isAscii_digitChar (by omega),
        isAscii_digitChar (by omega), isAscii_digitChar (by omega), by simp⟩

end Token
end CausalTrace
