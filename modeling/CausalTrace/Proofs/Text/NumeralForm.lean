/-
The grammar of integer numerals.

* `Grouped`: decimal digits of any script, with single underscores between them;
  `groupedDigits?_eq_some_iff`: these are the digits that are read;
* `IsNumeral`: at most 4300 such digits, behind a sign that may be left out;
  `readInteger_eq_ok_iff`: **exactly the numerals are read**, with white space at their
  ends;
* `IsClockText`, `clockValue?_eq_some_iff`: **the texts that hold a clock value are the
  numerals of numbers that are not negative**, with blanks at their ends;
  `clockValue?_of_writeInteger?`: what is written for a clock value is among them.
-/
import CausalTrace.Clock.Propagation
import CausalTrace.Proofs.Text.Numeral
import Mathlib.Data.Nat.Digits.Lemmas

namespace CausalTrace

variable {c next : Char} {text body rest : List Char} {digit : Nat} {digits : List Nat}
  {value : Int}

/-! ### Digits and underscores -/

/-- Decimal digits of any script, with single underscores between them. -/
inductive Grouped : (text : List Char) → (digits : List Nat) → Prop where
  | last {c : Char} {digit : Nat} : decimalDigit? c = some digit → Grouped [c] [digit]
  | next {c : Char} {digit : Nat} {text : List Char} {digits : List Nat} :
      decimalDigit? c = some digit → Grouped text digits → Grouped (c :: text) (digit :: digits)
  | underscore {c : Char} {digit : Nat} {text : List Char} {digits : List Nat} :
      decimalDigit? c = some digit → Grouped text digits →
      Grouped (c :: '_' :: text) (digit :: digits)

/-- A digit is none of the other characters. -/
lemma ne_of_decimalDigit? {mark : Char} (h : decimalDigit? c = some digit)
    (hmark : decimalDigit? mark = none) : c ≠ mark := by
  rintro rfl
  rw [hmark] at h
  cases h

lemma ne_underscore_of_decimalDigit? (h : decimalDigit? c = some digit) : c ≠ '_' :=
  ne_of_decimalDigit? h (by decide)

/-- What does not start with a digit is no group. -/
lemma groupedDigits?_of_none (h : decimalDigit? c = none) : groupedDigits? (c :: text) = none := by
  by_cases hc : c = '_'
  · subst hc
    simp [groupedDigits?, List.splitOn_cons_eq_if_modifyHead]
  · obtain ⟨group, groups, hgroups⟩ := List.exists_cons_of_ne_nil (List.splitOn_ne_nil '_' text)
    simp [groupedDigits?, List.splitOn_cons_eq_if_modifyHead, hc, hgroups, h]

/-- The last digit. -/
lemma groupedDigits?_singleton (h : decimalDigit? c = some digit) :
    groupedDigits? [c] = some [digit] := by
  simp [groupedDigits?, List.splitOn_cons_eq_if_modifyHead, ne_underscore_of_decimalDigit? h, h]

/-- A digit at the end of a group. -/
lemma groupedDigits?_cons_underscore (h : decimalDigit? c = some digit) :
    groupedDigits? (c :: '_' :: text) = (groupedDigits? text).map (digit :: ·) := by
  simp [groupedDigits?, List.splitOn_cons_eq_if_modifyHead, ne_underscore_of_decimalDigit? h, h,
    Option.map_eq_bind, Option.bind_assoc]

/-- A digit with another character of its group behind it. -/
lemma groupedDigits?_cons_cons (h : decimalDigit? c = some digit) (hnext : next ≠ '_') :
    groupedDigits? (c :: next :: text) = (groupedDigits? (next :: text)).map (digit :: ·) := by
  obtain ⟨group, groups, hgroups⟩ := List.exists_cons_of_ne_nil (List.splitOn_ne_nil '_' text)
  simp [groupedDigits?, List.splitOn_cons_eq_if_modifyHead, ne_underscore_of_decimalDigit? h, h,
    hnext, hgroups, Option.map_eq_bind, Option.bind_assoc]

/-- Groups start with a digit. -/
lemma Grouped.exists_cons (h : Grouped text digits) :
    ∃ c digit rest, text = c :: rest ∧ decimalDigit? c = some digit := by
  cases h with
  | last h => exact ⟨_, _, _, rfl, h⟩
  | next h _ => exact ⟨_, _, _, rfl, h⟩
  | underscore h _ => exact ⟨_, _, _, rfl, h⟩

/-- Groups are read. -/
lemma Grouped.groupedDigits?_eq (h : Grouped text digits) : groupedDigits? text = some digits := by
  induction h with
  | last h => exact groupedDigits?_singleton h
  | next h hrest ih =>
    obtain ⟨next, _, rest, rfl, hnext⟩ := hrest.exists_cons
    rw [groupedDigits?_cons_cons h (ne_underscore_of_decimalDigit? hnext), ih, Option.map_some]
  | underscore h _ ih => rw [groupedDigits?_cons_underscore h, ih, Option.map_some]

/-- What is read starts with a digit. -/
lemma exists_first_digit (h : groupedDigits? (c :: text) = some digits) :
    ∃ digit, decimalDigit? c = some digit := by
  cases hc : decimalDigit? c with
  | none =>
    rw [groupedDigits?_of_none hc] at h
    cases h
  | some digit => exact ⟨digit, rfl⟩

/-- Nothing else is read: digit by digit, with the underscore behind it if there is one. -/
lemma grouped_of_groupedDigits? (h : groupedDigits? text = some digits) : Grouped text digits := by
  induction text using List.twoStepInduction generalizing digits with
  | nil => simp [groupedDigits?] at h
  | singleton c =>
    obtain ⟨digit, hdigit⟩ := exists_first_digit h
    rw [groupedDigits?_singleton hdigit] at h
    obtain rfl := Option.some.inj h
    exact .last hdigit
  | cons_cons c next rest ih_rest ih_next =>
    obtain ⟨digit, hdigit⟩ := exists_first_digit h
    by_cases hnext : next = '_'
    · subst hnext
      rw [groupedDigits?_cons_underscore hdigit] at h
      obtain ⟨others, hothers, rfl⟩ := Option.map_eq_some_iff.1 h
      exact .underscore hdigit (ih_rest hothers)
    · rw [groupedDigits?_cons_cons hdigit hnext] at h
      obtain ⟨others, hothers, rfl⟩ := Option.map_eq_some_iff.1 h
      exact .next hdigit (ih_next _ hothers)

/-- **The digits that are read are those of the grammar.** -/
lemma groupedDigits?_eq_some_iff : groupedDigits? text = some digits ↔ Grouped text digits :=
  ⟨grouped_of_groupedDigits?, Grouped.groupedDigits?_eq⟩

/-- Groups consist of the characters of numerals. -/
lemma Grouped.isNumeral (h : Grouped text digits) : ∀ c ∈ text, isNumeral c := by
  induction h with
  | last h => simp [CausalTrace.isNumeral, h]
  | next h _ ih =>
    rw [List.forall_mem_cons]
    exact ⟨by simp [CausalTrace.isNumeral, h], ih⟩
  | underscore h _ ih =>
    rw [List.forall_mem_cons, List.forall_mem_cons]
    exact ⟨by simp [CausalTrace.isNumeral, h], by decide, ih⟩

/-- ASCII digits without underscores are one group. -/
lemma grouped_of_isDigit (hne : text ≠ []) (h : ∀ c ∈ text, c.isDigit) :
    Grouped text (text.map fun c => c.toNat - '0'.toNat) := by
  induction text with
  | nil => exact absurd rfl hne
  | cons c rest ih =>
    rw [List.forall_mem_cons] at h
    have hdigit := decimalDigit?_of_isDigit h.1
    cases rest with
    | nil => exact .last hdigit
    | cons next others => exact .next hdigit (ih (by simp) h.2)

/-- The first digit counts most. -/
lemma ofDigits_eq (digits : List Nat) : ofDigits digits = Nat.ofDigits 10 digits.reverse := by
  induction digits using List.reverseRecOn with
  | nil => rfl
  | append_singleton digits digit ih =>
    rw [ofDigits, List.foldl_append, ← ofDigits, ih, List.reverse_append, List.reverse_singleton,
      List.singleton_append, Nat.ofDigits_cons]
    simp [Nat.add_comm]

/-! ### Blanks -/

/-- No digit of any script is blank. -/
lemma isBlank_of_decimalDigit? (h : decimalDigit? c = some digit) : isBlank c = false := by
  obtain ⟨first, hfirst, -⟩ := Option.map_eq_some_iff.1 h
  have hmem := List.mem_of_find?_eq_some hfirst
  have hrange := List.find?_some hfirst
  have hapart : ∀ start ∈ digitZeros, ∀ range ∈ (0x1C, 0x1F) :: whiteSpaceRanges,
      range.2 < start ∨ start + 10 ≤ range.1 := by decide
  have houtside := hapart first hmem
  simp only [decide_eq_true_eq] at hrange
  simp only [List.forall_mem_cons] at houtside
  simp only [isBlank, isWhiteSpace, inRanges, Bool.or_eq_false_iff, List.any_eq_false,
    decide_eq_true_eq, List.forall_mem_singleton]
  refine ⟨fun range hmem hin => ?_, by omega⟩
  have hspace := houtside.2 range hmem
  omega

/-- A character of a numeral is not blank. -/
lemma isBlank_of_isNumeral (h : isNumeral c) : isBlank c = false := by
  simp only [isNumeral, Bool.or_eq_true, decide_eq_true_eq, Option.isSome_iff_exists] at h
  rcases h with rfl | ⟨digit, hdigit⟩
  · decide
  · exact isBlank_of_decimalDigit? hdigit

/-- White space is blank. -/
lemma isBlank_of_isWhiteSpace (h : isWhiteSpace c) : isBlank c := by
  rw [isBlank, h, Bool.true_or]

/-! ### Numerals -/

/-- A sign, or none, and whether it is a minus sign. -/
inductive IsSign : (sign : List Char) → (negative : Bool) → Prop where
  | none : IsSign [] false
  | plus : IsSign ['+'] false
  | minus : IsSign ['-'] true

/-- An integer numeral: at most 4300 decimal digits, behind a sign that may be left out. -/
def IsNumeral (text : List Char) (value : Int) : Prop :=
  ∃ sign negative body digits, text = sign ++ body ∧ IsSign sign negative ∧
    Grouped body digits ∧ digits.length ≤ 4300 ∧
    value = (if negative then -1 else 1) * (Nat.ofDigits 10 digits.reverse : Nat)

/-- A text starts with its sign. -/
lemma exists_sign (text : List Char) : ∃ sign negative body, text = sign ++ body ∧
    IsSign sign negative ∧ splitSign text = (negative, body) := by
  unfold splitSign
  split
  · exact ⟨_, _, _, rfl, .minus, rfl⟩
  · exact ⟨_, _, _, rfl, .plus, rfl⟩
  · exact ⟨_, _, _, rfl, .none, rfl⟩

/-- The sign ends where the digits start. -/
lemma splitSign_append {sign : List Char} {negative : Bool} (hsign : IsSign sign negative)
    (hbody : Grouped body digits) :
    splitSign (sign ++ body ++ rest) = (negative, body ++ rest) := by
  cases hsign with
  | plus => rfl
  | minus => rfl
  | none =>
    obtain ⟨c, digit, others, rfl, hdigit⟩ := hbody.exists_cons
    rw [List.nil_append, List.cons_append]
    unfold splitSign
    split
    · rename_i heq
      exact absurd (List.cons.inj heq).1 (ne_of_decimalDigit? hdigit (by decide))
    · rename_i heq
      exact absurd (List.cons.inj heq).1 (ne_of_decimalDigit? hdigit (by decide))
    · rfl

/-- There are no blanks in a numeral. -/
lemma IsNumeral.isBlank (h : IsNumeral text value) : ∀ c ∈ text, isBlank c = false := by
  obtain ⟨sign, negative, body, digits, rfl, hsign, hbody, -⟩ := h
  intro c hc
  rcases List.mem_append.1 hc with hc | hc
  · cases hsign with
    | none => cases hc
    | plus =>
      obtain rfl := List.mem_singleton.1 hc
      decide
    | minus =>
      obtain rfl := List.mem_singleton.1 hc
      decide
  · exact isBlank_of_isNumeral (hbody.isNumeral c hc)

lemma IsNumeral.isWhiteSpace (h : IsNumeral text value) : ∀ c ∈ text, isWhiteSpace c = false := by
  intro c hc
  have hblank := h.isBlank c hc
  rw [CausalTrace.isBlank, Bool.or_eq_false_iff] at hblank
  exact hblank.1

/-- There is a digit in a numeral. -/
lemma IsNumeral.ne_nil (h : IsNumeral text value) : text ≠ [] := by
  obtain ⟨sign, negative, body, digits, rfl, -, hbody, -⟩ := h
  obtain ⟨c, digit, rest, rfl, -⟩ := hbody.exists_cons
  simp

lemma signed_ofDigits (negative : Bool) (digits : List Nat) :
    signed negative (ofDigits digits) =
      (if negative then -1 else 1) * (Nat.ofDigits 10 digits.reverse : Nat) := by
  rw [ofDigits_eq]
  cases negative <;> simp [signed]

/-- A text is read if its digits are, not too many of them, and only white space is behind
them. -/
lemma readInteger_eq_ok_iff_digits {negative : Bool}
    (h : splitSign (text.dropWhile isWhiteSpace) = (negative, body)) :
    readInteger text = .ok value ↔
      ∃ digits, Grouped (body.takeWhile isNumeral) digits ∧ digits.length ≤ digitLimit ∧
        (∀ c ∈ body.dropWhile isNumeral, isWhiteSpace c) ∧
        value = (if negative then -1 else 1) * (Nat.ofDigits 10 digits.reverse : Nat) := by
  simp only [readInteger, h, ← groupedDigits?_eq_some_iff, ← signed_ofDigits]
  cases groupedDigits? (body.takeWhile isNumeral) with
  | none => simp
  | some digits =>
    simp only [Option.some.injEq, exists_eq_left', ← List.all_eq_true]
    split_ifs with hlong hspace
    · simp [hlong]
    · simp [hspace, Nat.not_lt.1 hlong, eq_comm]
    · simp [hspace]

/-- **Exactly the numerals are read**, with white space at their ends. -/
lemma readInteger_eq_ok_iff :
    readInteger text = .ok value ↔ ∃ front numeral back, text = front ++ numeral ++ back ∧
      (∀ c ∈ front, isWhiteSpace c) ∧ (∀ c ∈ back, isWhiteSpace c) ∧ IsNumeral numeral value := by
  constructor
  · intro h
    obtain ⟨sign, negative, body, hstart, hsign, hsplit⟩ :=
      exists_sign (text.dropWhile isWhiteSpace)
    obtain ⟨digits, hdigits, hlength, hback, hvalue⟩ := (readInteger_eq_ok_iff_digits hsplit).1 h
    refine ⟨text.takeWhile isWhiteSpace, sign ++ body.takeWhile isNumeral, _, ?_,
      fun c => List.mem_takeWhile_imp, hback, sign, _, _, digits, rfl, hsign, hdigits, hlength,
      hvalue⟩
    rw [List.append_assoc, List.append_assoc, List.takeWhile_append_dropWhile, ← hstart,
      List.takeWhile_append_dropWhile]
  · rintro ⟨front, numeral, back, rfl, hfront, hback, hnumeral⟩
    have hstart : (front ++ numeral ++ back).dropWhile isWhiteSpace = numeral ++ back := by
      rw [List.append_assoc, List.dropWhile_append_of_pos hfront]
      exact dropWhile_append_of_forall hnumeral.isWhiteSpace hnumeral.ne_nil
    obtain ⟨sign, negative, body, digits, rfl, hsign, hbody, hlength, hvalue⟩ := hnumeral
    rw [readInteger_eq_ok_iff_digits ((congrArg splitSign hstart).trans
      (splitSign_append hsign hbody))]
    have hend : ∀ c ∈ back, isNumeral c = false := fun c hc => by
      by_contra hnumeral
      have hblank := isBlank_of_isNumeral (Bool.eq_true_of_not_eq_false hnumeral)
      rw [isBlank_of_isWhiteSpace (hback c hc)] at hblank
      cases hblank
    rw [List.takeWhile_append_of_pos hbody.isNumeral, List.dropWhile_append_of_pos hbody.isNumeral,
      dropWhile_eq_self_of_forall hend, takeWhile_eq_nil_of_forall hend, List.append_nil]
    exact ⟨digits, hbody, hlength, hback, hvalue⟩

/-- The digits of a number are a numeral, if they are not too many. -/
lemma isNumeral_toDigits {value : Nat} (h : (Nat.toDigits 10 value).length ≤ 4300) :
    IsNumeral (Nat.toDigits 10 value) value := by
  have hdigits : ∀ c ∈ Nat.toDigits 10 value, c.isDigit :=
    fun c hc => Nat.isDigit_of_mem_toDigits (by decide) (by decide) hc
  refine ⟨[], false, _, _, (List.nil_append _).symm, .none,
    grouped_of_isDigit Nat.toDigits_ne_nil hdigits, ?_, ?_⟩
  · rwa [List.length_map]
  · rw [← ofDigits_eq, ofDigits, List.foldl_map]
    have hvalue : Nat.ofDigitChars 10 (Nat.toDigits 10 value) 0 = value :=
      Nat.ofDigitChars_toDigits (by decide) (by decide)
    rw [Nat.ofDigitChars] at hvalue
    simpa using hvalue.symm

/-! ### Clock values -/

/-- A text that holds a clock value: a numeral, with blanks at its ends, of a number that is
not negative. -/
def IsClockText (text : String) (value : Nat) : Prop :=
  ∃ front numeral back, text.toList = front ++ numeral ++ back ∧ (∀ c ∈ front, isBlank c) ∧
    (∀ c ∈ back, isBlank c) ∧ IsNumeral numeral value

/-- **The texts that hold a clock value are these.** -/
lemma clockValue?_eq_some_iff {text : String} {value : Nat} :
    clockValue? text = some value ↔ IsClockText text value := by
  have hread : clockValue? text = some value ↔
      readInteger (trim text.toList) = .ok (value : Int) := by
    rw [clockValue?]
    cases readInteger (trim text.toList) with
    | error fault => simp
    | ok read =>
      simp only [Option.ite_none_left_eq_some, Option.some.injEq, Except.ok.injEq]
      omega
  rw [hread, readInteger_eq_ok_iff]
  constructor
  · rintro ⟨front, numeral, back, htrim, hfront, hback, hnumeral⟩
    obtain ⟨before, after, htext, hbefore, hafter⟩ := exists_append_trim text.toList
    refine ⟨before ++ front, numeral, back ++ after, ?_, ?_, ?_, hnumeral⟩
    · rw [htext, htrim]
      simp only [List.append_assoc]
    · exact List.forall_mem_append.2
        ⟨hbefore, fun c hc => isBlank_of_isWhiteSpace (hfront c hc)⟩
    · exact List.forall_mem_append.2
        ⟨fun c hc => isBlank_of_isWhiteSpace (hback c hc), hafter⟩
  · rintro ⟨front, numeral, back, htext, hfront, hback, hnumeral⟩
    refine ⟨[], numeral, [], ?_, by simp, by simp, hnumeral⟩
    rw [htext, trim_append hfront hback hnumeral.isBlank hnumeral.ne_nil]
    simp

/-- Minus zero is not negative. -/
example : clockValue? " -0\n" = some 0 := by decide

/-- **The numeral of a clock value is read as that value.** -/
lemma clockValue?_of_writeInteger? {value : Nat} {numeral : String}
    (h : writeInteger? value = some numeral) : clockValue? numeral = some value := by
  rw [writeInteger?, Option.ite_none_right_eq_some, Option.some.injEq] at h
  obtain ⟨hwritable, rfl⟩ := h
  have htext : (toString (value : Int)).toList = Nat.toDigits 10 value := Nat.toList_repr
  rw [clockValue?_eq_some_iff]
  exact ⟨[], _, [], by rw [htext, List.nil_append, List.append_nil], by simp, by simp,
    isNumeral_toDigits (of_decide_eq_true hwritable)⟩

end CausalTrace
