/-
Headers found in the environment.

* `StrayNewline`: the first fault of some fields is a newline in the place of
  the last digit of one of them;
* `parse_eq_strayNewline_iff`: a text is read up to a stray newline exactly
  if its first fault is one;
* `IsFirstSet`: the text of the first variable that is set;
* `header_in_environment`: **the first variable that is set decides**: a
  header is found, any other text counts as none, and only a stray newline is
  reported;
* `stray_newline_reported`: a header that is cut by a newline is neither
  found nor counted as none.
-/
import CausalTrace.Proofs.TraceHeader.Form

namespace CausalTrace
namespace TraceHeader

variable {text : String} {fields field version trace parent flags : List Char} {position : Nat}

/-! ### Stray newlines -/

/-- The first fault of the fields of a header is a newline in the place of the
last digit of one of them, at a position in that field. -/
inductive StrayNewline : (fields : List (List Char)) → (position : Nat) → Prop where
  | inVersion {version trace parent flags : List Char} :
      LosesDigit 2 version → StrayNewline [version, trace, parent, flags] 1
  | inTrace {trace parent flags : List Char} :
      LosesDigit 32 trace → StrayNewline [['0', '0'], trace, parent, flags] 31
  | inParent {trace parent flags : List Char} :
      IsHexText 32 trace → (∃ c ∈ trace, c ≠ '0') → LosesDigit 16 parent →
      StrayNewline [['0', '0'], trace, parent, flags] 15

/-- A field is refused for a stray newline exactly if it lost a digit to
one. -/
lemma hexField_eq_strayNewline_iff {size : Nat} {fault : HeaderError} (hsize : 0 < size)
    (hfault : ∀ position, fault ≠ .strayNewline position) :
    hexField size fault field = .error (.strayNewline position) ↔
      LosesDigit (2 * size) field ∧ position = 2 * size - 1 := by
  rw [hexField_eq_error_iff hsize, HeaderError.strayNewline.injEq]
  refine or_iff_left ?_
  rintro ⟨-, -, h⟩
  exact hfault position h.symm

/-- A trimmed text does not end with a blank. -/
lemma isBlank_of_getLast?_trim {chars : List Char} {c : Char}
    (h : (trim chars).getLast? = some c) : isBlank c = false := by
  rw [trim, trimBoth, List.getLast?_reverse] at h
  have hhead := List.head?_dropWhile_not isBlank (chars.dropWhile isBlank).reverse
  rw [h] at hhead
  simpa using hhead

/-- The flags end a trimmed text, and so no newline ends them. -/
lemma not_losesDigit_flags {chars : List Char} (size : Nat)
    (h : (trim chars).splitOn '-' = [version, trace, parent, flags]) : ¬ LosesDigit size flags := by
  rintro ⟨digits, -, rfl⟩
  have hlast : (trim chars).getLast? = some '\n' := by
    rw [eq_join_of_splitOn h, join, ← List.cons_append, ← List.append_assoc,
      List.getLast?_concat]
  exact absurd (isBlank_of_getLast?_trim hlast) (by decide)

/-- **When a text is read up to a stray newline**: if it is the first fault of
its fields. -/
lemma parse_eq_strayNewline_iff :
    parse text = .error (.strayNewline position) ↔
      StrayNewline ((trim text.toList).splitOn '-') position := by
  rw [parse]
  split
  · rename_i version trace parent flags hfields
    have hflags := not_losesDigit_flags (2 * 1) hfields
    simp only [bind_eq_error_iff, refuse_eq_error_iff, hexField_eq_ok_iff,
      hexField_eq_strayNewline_iff, Nat.zero_lt_succ, ne_eq, reduceCtorEq, not_false_eq_true,
      implies_true, and_false, false_or, hflags, false_and, pure, Except.pure, exists_false,
      or_false]
    rw [hfields]
    constructor
    · rintro (⟨h, rfl⟩ | ⟨zero, hversion, hzero, ⟨h, rfl⟩ | ⟨id, htrace, hne, h, rfl⟩⟩)
      · exact .inVersion h
      · obtain rfl := version_eq_zeros_iff.1 ⟨zero, hversion, by simpa using hzero⟩
        exact .inTrace h
      · obtain rfl := version_eq_zeros_iff.1 ⟨zero, hversion, by simpa using hzero⟩
        have hhex := isHexText_of_bytesOfHex? htrace
        rw [id.length_eq] at hhex
        exact .inParent hhex ((allZero_eq_false_iff htrace).1 hne) h
    · intro h
      cases h with
      | inVersion h => exact .inl ⟨h, rfl⟩
      | inTrace h => exact .inr ⟨⟨[0], rfl⟩, rfl, by decide, .inl ⟨h, rfl⟩⟩
      | inParent hhex hne h =>
        obtain ⟨id, hid⟩ := exists_bytesOfHex? 16 hhex
        exact .inr ⟨⟨[0], rfl⟩, rfl, by decide,
          .inr ⟨id, hid, (allZero_eq_false_iff hid).2 hne, h, rfl⟩⟩
  · rename_i hother
    simp only [Except.error.injEq, reduceCtorEq, false_iff]
    intro h
    generalize hfields : (trim text.toList).splitOn '-' = fields at h
    cases h <;> exact hother _ _ _ _ hfields

/-! ### Variables -/

/-- The text of the first of some variables that is set. -/
def IsFirstSet (names : List String) (env : Environment) (text : String) : Prop :=
  ∃ before name after, names = before ++ name :: after ∧
    (∀ other ∈ before, env.get? other = none) ∧ env.get? name = some text

/-- It is the text that is found. -/
lemma isFirstSet_iff {names : List String} {env : Environment} :
    IsFirstSet names env text ↔ names.findSome? env.get? = some text := by
  simp only [IsFirstSet, List.findSome?_eq_some_iff, and_comm (a := env.get? _ = some text)]

/-- **The first variable that is set decides**: there is no header if none is
set, and else the header that its text writes, if it writes one. A text that
writes none counts as no header, unless its first fault is a stray newline:
that is reported, and nothing else is. -/
theorem header_in_environment (names : List String) (env : Environment) :
    (fromEnvironment names env = .ok none ↔
        (∀ name ∈ names, env.get? name = none) ∨
          ∃ text, IsFirstSet names env text ∧ (∀ header, parse text ≠ .ok header) ∧
            ∀ position, ¬ StrayNewline ((trim text.toList).splitOn '-') position) ∧
      (∀ header, fromEnvironment names env = .ok (some header) ↔
        ∃ text, IsFirstSet names env text ∧ parse text = .ok header) ∧
      (∀ error, fromEnvironment names env = .error error ↔
        ∃ text position, IsFirstSet names env text ∧
          StrayNewline ((trim text.toList).splitOn '-') position ∧
          error = .strayNewline position) ∧
      ∀ (text : String) (position : Nat), parse text = .error (.strayNewline position) ↔
        StrayNewline ((trim text.toList).splitOn '-') position := by
  simp only [← parse_eq_strayNewline_iff, isFirstSet_iff, ← List.findSome?_eq_none_iff,
    fromEnvironment, implies_true, and_true]
  cases names.findSome? env.get? with
  | none => simp
  | some text =>
    simp only [reduceCtorEq, Option.some.injEq, exists_and_left, exists_eq_left', false_or]
    cases parse text with
    | ok header => simp
    | error fault => cases fault <;> simp [eq_comm]

/-- A header in the second of two variables, the first of which is not set. -/
theorem header_in_second_variable :
    (∀ name ∈ ["TRACEPARENT"], (Environment.mk [("OTHER", callerText)]).get? name = none) ∧
      fromEnvironment ["TRACEPARENT", "OTHER"] ⟨[("OTHER", callerText)]⟩ =
        .ok (some callerHeader) := by
  have hread : parse callerText = .ok callerHeader := by decide
  obtain ⟨-, hfound, -⟩ :=
    header_in_environment ["TRACEPARENT", "OTHER"] ⟨[("OTHER", callerText)]⟩
  have hunset : ∀ name ∈ ["TRACEPARENT"],
      (Environment.mk [("OTHER", callerText)]).get? name = none := by decide
  exact ⟨hunset, (hfound callerHeader).2
    ⟨callerText, ⟨["TRACEPARENT"], "OTHER", [], rfl, hunset, by decide⟩, hread⟩⟩

/-- A header whose trace is cut by a newline in the place of its last digit. -/
def cutText : String :=
  "00-4bf92f3c7b644bf92f3c7b644bf92f3\n-00f067aa0ba902b7-01"

/-- The newline passes the check of the digits and is found only when they are
paired. So the text is refused with a fault of another kind, and the environment
that holds it has neither a header nor none. -/
theorem stray_newline_reported :
    parse cutText = .error (.strayNewline 31) ∧
      fromEnvironment ["TRACEPARENT"] ⟨[("TRACEPARENT", cutText)]⟩ =
        .error (.strayNewline 31) ∧
      HeaderError.message (.strayNewline 31) =
        "non-hexadecimal number found in fromhex() arg at position 31" := by
  have hread : parse cutText = .error (.strayNewline 31) := by decide
  refine ⟨hread, ?_, by decide⟩
  rw [fromEnvironment, show ["TRACEPARENT"].findSome? (Environment.get? _) = some cutText by decide]
  simp only [hread]

end TraceHeader
end CausalTrace
