/-
Tokens written one behind the other, and cut apart again.

* `IsExact`: tokens that are read as they were written, all but the floats
  and the integers that are too long;
* `next?_write`: **a token that was written is the first that is found**, if
  it is no number or nothing behind it goes on with the number;
* `Separated`: tokens with a mark behind each number;
* `scan_of_separated`: such tokens are cut apart again;
* `isAscii_write`: what is written is ASCII without control characters.
-/
import CausalTrace.Proofs.Attribute.Quoted
import CausalTrace.Proofs.Text.Numeral
import Mathlib.Data.Bool.AllAny

namespace CausalTrace
namespace Token

variable {c : Char} {text : List Char} {token : Token} {tokens : List Token}

/-! ### Numbers -/

/-- A text does not go on with a number: it starts with no digit, no decimal
point and no exponent. -/
def EndsNumber (text : List Char) : Prop :=
  ∀ c ∈ text.head?, c.isDigit = false ∧ c ≠ '.' ∧ c ≠ 'e' ∧ c ≠ 'E'

/-- Only zero starts with a zero. -/
lemma head?_toDigits_ne {n : Nat} (h : 0 < n) : (Nat.toDigits 10 n).head? ≠ some '0' := by
  induction n using Nat.strongRecOn with
  | ind n ih =>
    rcases Nat.lt_or_ge n 10 with hlt | hge
    · rw [Nat.toDigits_of_lt_base hlt]
      have hall : ∀ n < 10, 0 < n → [n.digitChar].head? ≠ some '0' := by decide
      exact hall n hlt h
    · have hrest := ih (n / 10) (by omega) (by omega)
      rw [Nat.toDigits_of_base_le (by decide) hge]
      cases hdigits : Nat.toDigits 10 (n / 10) with
      | nil => exact absurd hdigits Nat.toDigits_ne_nil
      | cons d ds =>
        rw [hdigits] at hrest
        exact hrest

/-- A leading zero stands alone. -/
lemma length_toDigits_of_head? {n : Nat} (h : (Nat.toDigits 10 n).head? = some '0') :
    (Nat.toDigits 10 n).length = 1 := by
  rcases Nat.eq_zero_or_pos n with rfl | hpos
  · rfl
  · exact absurd h (head?_toDigits_ne hpos)

/-- What ends a number is neither more digits nor a fraction nor an exponent. -/
lemma EndsNumber.read (h : EndsNumber text) :
    text.takeWhile Char.isDigit = [] ∧ text.dropWhile Char.isDigit = text ∧
      readFraction text = ([], text) ∧ readExponent text = (none, text) := by
  cases text with
  | nil => exact ⟨rfl, rfl, rfl, rfl⟩
  | cons c rest =>
    obtain ⟨hdigit, hpoint, he, hE⟩ := h c rfl
    refine ⟨by simp [hdigit], by simp [hdigit], ?_, by simp [readExponent, he, hE]⟩
    rw [readFraction]
    exact fun _ heq => hpoint (List.cons.inj heq).1

/-- The digits of a number, up to where it ends, are read as the number. -/
lemma readNumber?_toDigits {n : Nat} (negative : Bool)
    (hlength : (Nat.toDigits 10 n).length ≤ digitLimit) (htext : EndsNumber text) :
    readNumber? negative (Nat.toDigits 10 n ++ text) = some (int (signed negative n), text) := by
  have hdigits : ∀ c ∈ Nat.toDigits 10 n, c.isDigit = true :=
    fun c hc => Nat.isDigit_of_mem_toDigits (by decide) (by decide) hc
  obtain ⟨htake, hdrop, hfraction, hexponent⟩ := htext.read
  have hzero : ¬ ((Nat.toDigits 10 n).isEmpty ||
      ((Nat.toDigits 10 n).head? = some '0' && (Nat.toDigits 10 n).length ≠ 1)) = true := by
    have hone := @length_toDigits_of_head? n
    simp [Nat.toDigits_ne_nil] at hone ⊢
    exact hone
  rw [readNumber?, List.takeWhile_append_of_pos hdigits, List.dropWhile_append_of_pos hdigits,
    htake, hdrop, List.append_nil, hfraction]
  simp only [hexponent]
  rw [if_neg hzero]
  simp [Nat.not_lt.2 hlength, Nat.ofDigitChars_ten_toDigits]

/-! ### One token -/

/-- A token that is read as it was written. -/
def IsExact : Token → Prop
  | int value => isWritable value = true
  | float _ => False
  | _ => True

/-- A token that is a number. -/
def IsNumber : Token → Prop
  | int _ => True
  | float _ => True
  | _ => False

/-- A digit starts no other token, nor does it follow the sign of one. -/
lemma next?_digit (hdigit : c.isDigit = true) (rest : List Char) :
    isSpace c = false ∧ next? c rest = readNumber? false (c :: rest) ∧
      next? '-' (c :: rest) = readNumber? true (c :: rest) := by
  have hrange := toNat_of_isDigit hdigit
  have hne : ∀ d : Char, d.toNat < 48 ∨ 57 < d.toNat → d ≠ c := by
    rintro d hd rfl
    omega
  have hne' : ∀ d : Char, d.toNat < 48 ∨ 57 < d.toNat → c ≠ d := fun d hd => (hne d hd).symm
  have hmark : marks.find? (·.1 = c) = none := by
    simp [marks, hne]
  have hminus : marks.find? (·.1 = '-') = none := by decide
  refine ⟨by simp [isSpace, hne'], ?_, ?_⟩
  · rw [next?, hmark]
    simp [hne', words, behind?, hne, hdigit]
  · rw [next?, hminus]
    simp [words, behind?, hne]

/-- An integer that was written is the first token that is found. -/
lemma next?_write_int {value : Int} (hwritable : isWritable value = true)
    (htext : EndsNumber text) :
    ∃ c rest, (int value).write ++ text = c :: rest ∧ isSpace c = false ∧
      next? c rest = some (int value, text) := by
  have hlength : (Nat.toDigits 10 value.natAbs).length ≤ digitLimit := of_decide_eq_true hwritable
  cases hdigits : Nat.toDigits 10 value.natAbs with
  | nil => exact absurd hdigits Nat.toDigits_ne_nil
  | cons d ds =>
    have hdigit : d.isDigit = true :=
      Nat.isDigit_of_mem_toDigits (by decide) (by decide) (hdigits ▸ List.mem_cons_self)
    obtain ⟨hspace, hplain, hsigned⟩ := next?_digit hdigit (ds ++ text)
    have hread := fun negative => readNumber?_toDigits negative hlength htext
    rw [hdigits, List.cons_append] at hread
    by_cases hneg : value < 0
    · refine ⟨'-', d :: (ds ++ text), by simp [write, hneg, hdigits], by decide, ?_⟩
      have hvalue : signed true value.natAbs = value := by
        simp only [signed, if_true]
        omega
      rw [hsigned, hread true, hvalue]
    · refine ⟨d, ds ++ text, by simp [write, hneg, hdigits], hspace, ?_⟩
      have hvalue : signed false value.natAbs = value := by
        simp only [signed, Bool.false_eq_true, if_false]
        omega
      rw [hplain, hread false, hvalue]

/-- **A token that was written is the first that is found.** -/
lemma next?_write (hexact : token.IsExact) (hnumber : token.IsNumber → EndsNumber text) :
    ∃ c rest, token.write ++ text = c :: rest ∧ isSpace c = false ∧
      next? c rest = some (token, text) := by
  cases token with
  | openList => exact ⟨'[', text, rfl, by decide, rfl⟩
  | closeList => exact ⟨']', text, rfl, by decide, rfl⟩
  | openMap => exact ⟨'\x7b', text, rfl, by decide, rfl⟩
  | closeMap => exact ⟨'\x7d', text, rfl, by decide, rfl⟩
  | comma => exact ⟨',', text, rfl, by decide, rfl⟩
  | colon => exact ⟨':', text, rfl, by decide, rfl⟩
  | null => exact ⟨'n', "ull".toList ++ text, rfl, by decide, rfl⟩
  | bool value =>
    cases value with
    | true => exact ⟨'t', "rue".toList ++ text, rfl, by decide, rfl⟩
    | false => exact ⟨'f', "alse".toList ++ text, rfl, by decide, rfl⟩
  | int value => exact next?_write_int hexact (hnumber trivial)
  | float value => exact hexact.elim
  | quoted value =>
    refine ⟨'"', value.toList.flatMap escapeChar ++ '"' :: text, ?_, by decide, ?_⟩
    · simp [write]
    · have hmark : marks.find? (·.1 = '"') = none := by decide
      rw [next?, hmark]
      simp only [if_true, readUnits_flatMap, joinUnits_flatMap, Option.map_some,
        String.ofList_toList]

/-! ### Many tokens -/

/-- A text that starts with a token is cut behind it. -/
lemma scan_write (hexact : token.IsExact) (hnumber : token.IsNumber → EndsNumber text) :
    scan (token.write ++ text) = (scan text).map (token :: ·) := by
  obtain ⟨c, rest, heq, hspace, hnext⟩ := next?_write hexact hnumber
  rw [heq, scan, hspace, if_neg (by decide)]
  split
  · rename_i hnone
    rw [hnext] at hnone
    cases hnone
  · rename_i token' behind hsome
    rw [hnext, Option.some.injEq, Prod.mk.injEq] at hsome
    rw [hsome.1, hsome.2]

/-- Nothing more, or a comma or closing mark is next. -/
def EndsValue (tokens : List Token) : Prop :=
  ∀ token ∈ tokens.head?, token = comma ∨ token = closeList ∨ token = closeMap

/-- Tokens that are cut apart again: each is exact, and behind each number
comes a comma or a closing mark. -/
def Separated : List Token → Prop
  | [] => True
  | token :: tokens =>
    token.IsExact ∧ (token.IsNumber → EndsValue tokens) ∧ Separated tokens

/-- Each of the tokens is exact. -/
lemma Separated.isExact (h : Separated tokens) (hmem : token ∈ tokens) : token.IsExact := by
  induction tokens with
  | nil => cases hmem
  | cons first tokens ih =>
    rcases List.mem_cons.1 hmem with rfl | hmem
    · exact h.1
    · exact ih h.2.2 hmem

/-- No number goes on with a comma or a closing mark. -/
lemma EndsValue.endsNumber (h : EndsValue tokens) : EndsNumber (tokens.flatMap write) := by
  cases tokens with
  | nil => intro c hc; cases hc
  | cons token tokens =>
    intro c hc
    rw [List.flatMap_cons] at hc
    rcases h token rfl with rfl | rfl | rfl <;> obtain rfl := Option.some.inj hc <;> decide

/-- **Separated tokens are cut apart again.** -/
lemma scan_of_separated (h : Separated tokens) : scan (tokens.flatMap write) = some tokens := by
  induction tokens with
  | nil => rw [List.flatMap_nil, scan]
  | cons token tokens ih =>
    obtain ⟨hexact, hnumber, hrest⟩ := h
    rw [List.flatMap_cons, scan_write hexact fun hn => (hnumber hn).endsNumber, ih hrest,
      Option.map_some]

/-! ### Characters -/

/-- What is written of an exact token is ASCII. -/
lemma isAscii_write (h : token.IsExact) : ∀ c ∈ token.write, IsAscii c := by
  cases token with
  | openList | closeList | openMap | closeMap | comma | colon | null =>
    exact List.all_iff_forall_prop.1 (by decide)
  | bool value => cases value <;> exact List.all_iff_forall_prop.1 (by decide)
  | float value => exact h.elim
  | int value =>
    intro c hc
    rw [write, List.mem_append] at hc
    rcases hc with hsign | hdigit
    · split at hsign
      · rw [List.mem_singleton] at hsign
        rw [hsign]
        decide
      · cases hsign
    · have hrange := toNat_of_isDigit (Nat.isDigit_of_mem_toDigits (by decide) (by decide) hdigit)
      exact ⟨by omega, by omega⟩
  | quoted value =>
    have hmark : IsAscii '"' := by decide
    rw [write]
    simp only [List.forall_mem_cons, List.forall_mem_append, List.forall_mem_flatMap]
    exact ⟨hmark, fun c _ => isAscii_escapeChar, hmark, by simp⟩

end Token
end CausalTrace
