/-
Attributes of spans, written and read again.

* `ind`: induction over values, by their items and their fields;
  `int_mem_tokens_iff`: the integers among the tokens of a value;
* `writeMap?_eq_some_iff`: a map has a text exactly if no integer in it is too
  long;
* `map_readMap_writeMap`: what is read of a written map is its canonical form;
* `writeMap_eq_iff`: maps are written as the same text exactly if they are
  alike;
* `attributes_read_and_written`: **attributes come back from their text, alike
  maps and no others have the same text, and so alike neighbours share a run**.
-/
import CausalTrace.Compression
import CausalTrace.Proofs.Attribute.Canonical
import CausalTrace.Proofs.Run

namespace CausalTrace
namespace Attribute

variable {given other fields : List (String × Attribute)} {items : List Attribute} {n : Int}

/-! ### Maps that have a text -/

/-- What holds of a value whenever it holds of its items, or of the values of its
fields, holds of every value. -/
@[elab_as_elim]
lemma ind {motive : Attribute → Prop} (null : motive .null) (bool : ∀ value, motive (.bool value))
    (int : ∀ value, motive (.int value)) (float : ∀ value, motive (.float value))
    (text : ∀ value, motive (.text value)) (foreign : ∀ shown, motive (.foreign shown))
    (list : ∀ items, (∀ item ∈ items, motive item) → motive (.list items))
    (map : ∀ fields, (∀ field ∈ fields, motive field.2) → motive (.map fields)) :
    ∀ value, motive value
  | .null => null
  | .bool value => bool value
  | .int value => int value
  | .float value => float value
  | .text value => text value
  | .foreign shown => foreign shown
  | .list items => list items fun item _ =>
    ind null bool int float text foreign list map item
  | .map fields => map fields fun field _ =>
    ind null bool int float text foreign list map field.2
termination_by value => sizeOf value
decreasing_by
  · have := List.sizeOf_lt_of_mem ‹item ∈ items›
    simp
    omega
  · have := List.sizeOf_lt_of_mem ‹field ∈ fields›
    have : sizeOf field = 1 + sizeOf field.1 + sizeOf field.2 := by cases field; rfl
    simp
    omega

/-- An integer in a list is in one of its items. -/
lemma isPart_int_list_iff : IsPart (int n) (list items) ↔ ∃ item ∈ items, IsPart (int n) item := by
  constructor
  · intro h
    cases h with
    | item hmem h => exact ⟨_, hmem, h⟩
  · rintro ⟨item, hmem, h⟩
    exact .item hmem h

/-- An integer in a map is in the value of one of its fields. -/
lemma isPart_int_map_iff :
    IsPart (int n) (map fields) ↔ ∃ field ∈ fields, IsPart (int n) field.2 := by
  constructor
  · intro h
    cases h with
    | field hmem h => exact ⟨_, hmem, h⟩
  · rintro ⟨field, hmem, h⟩
    exact .field hmem h

/-- The integers among the tokens of the items behind the first are those in the
items and those that follow. -/
lemma int_mem_itemTokens_iff (hitems : ∀ item ∈ items, ∀ rest,
      .int n ∈ item.tokens rest ↔ IsPart (int n) item ∨ .int n ∈ rest) (rest : List Token) :
    .int n ∈ itemTokens items rest ↔ (∃ item ∈ items, IsPart (int n) item) ∨ .int n ∈ rest := by
  induction items with
  | nil => simp [itemTokens]
  | cons item items ih =>
    rw [List.forall_mem_cons] at hitems
    simp [itemTokens, hitems.1, ih hitems.2, or_assoc]

/-- Likewise for the fields behind the first. -/
lemma int_mem_fieldTokens_iff (hfields : ∀ field ∈ fields, ∀ rest,
      .int n ∈ field.2.tokens rest ↔ IsPart (int n) field.2 ∨ .int n ∈ rest)
    (rest : List Token) :
    .int n ∈ fieldTokens fields rest ↔
      (∃ field ∈ fields, IsPart (int n) field.2) ∨ .int n ∈ rest := by
  induction fields with
  | nil => simp [fieldTokens]
  | cons field fields ih =>
    rw [List.forall_mem_cons] at hfields
    simp [fieldTokens, hfields.1, ih hfields.2, or_assoc]

/-- The integers among the tokens of a value are those in it and those that
follow. -/
lemma int_mem_tokens_iff (value : Attribute) (rest : List Token) :
    .int n ∈ value.tokens rest ↔ IsPart (int n) value ∨ .int n ∈ rest := by
  induction value using Attribute.ind generalizing rest with
  | null | bool _ | float _ | text _ | foreign _ =>
    rw [tokens, List.mem_cons]
    refine or_congr_left (iff_of_false (fun h => ?_) fun h => ?_) <;> cases h
  | int value =>
    rw [tokens, List.mem_cons]
    refine or_congr_left ⟨fun h => ?_, fun h => ?_⟩ <;> cases h
    · exact .self
    · rfl
  | list items ih =>
    rw [isPart_int_list_iff]
    cases items with
    | nil => simp [tokens]
    | cons item items =>
      rw [List.forall_mem_cons] at ih
      simp [tokens, ih.1, int_mem_itemTokens_iff ih.2, or_assoc]
  | map fields ih =>
    rw [isPart_int_map_iff]
    cases fields with
    | nil => simp [tokens]
    | cons field fields =>
      rw [List.forall_mem_cons] at ih
      simp [tokens, ih.1, int_mem_fieldTokens_iff ih.2, or_assoc]

/-- **A map has a text exactly if no integer in it is too long.** -/
lemma writeMap?_eq_some_iff {text : String} :
    writeMap? given = some text ↔
      (∀ n, IsPart (int n) (map given) → isWritable n = true) ∧ writeMap given = text := by
  have htext : ((map given).tokens []).all Token.hasText = true ↔
      ∀ n, IsPart (int n) (map given) → isWritable n = true := by
    rw [List.all_eq_true]
    constructor
    · intro h n hpart
      exact h _ ((int_mem_tokens_iff _ _).2 (.inl hpart))
    · intro h token htoken
      cases token with
      | int m =>
        obtain hpart | hnone := (int_mem_tokens_iff _ _).1 htoken
        · exact h m hpart
        · cases hnone
      | _ => rfl
  rw [writeMap?, ← htext, Option.ite_none_right_eq_some, Option.some.injEq]

/-- No integer in an exact value is too long. -/
lemma isWritable_of_isPart {value : Attribute} (h : value.IsExact)
    (hpart : IsPart (int n) value) : isWritable n = true := by
  induction h with
  | null | bool _ | text _ | foreign _ => cases hpart
  | int hwritable =>
    cases hpart
    exact hwritable
  | list _ ih =>
    obtain ⟨item, hitem, hpart⟩ := isPart_int_list_iff.1 hpart
    exact ih item hitem hpart
  | map _ _ ih =>
    obtain ⟨field, hfield, hpart⟩ := isPart_int_map_iff.1 hpart
    exact ih field hfield hpart

/-! ### Text read again -/

/-- What is written of a map is its canonical form, spelled. -/
lemma toList_writeMap (given : List (String × Attribute)) :
    (writeMap given).toList = (map given).canonical.spelled :=
  String.toList_ofList

/-- What is read of a written map is its canonical form. -/
lemma map_readMap_writeMap (h : (map given).IsExact) :
    map (readMap (writeMap given)) = (map given).canonical := by
  have hread : read? (writeMap given).toList = some (map given).canonical := by
    rw [toList_writeMap, read?_spelled h.canonical, shown_canonical h]
  rw [readMap, hread]
  rfl

/-- Maps are written as the same text exactly if they are alike. -/
lemma writeMap_eq_iff (h : (map given).IsExact) (hother : (map other).IsExact) :
    writeMap given = writeMap other ↔ (map given).shown.Alike (map other).shown := by
  rw [← canonical_eq_iff_alike h hother]
  constructor
  · intro heq
    rw [← map_readMap_writeMap h, heq, map_readMap_writeMap hother]
  · intro heq
    rw [writeMap, writeMap, write, write, heq]

/-- What is read of a written map is alike to the map. -/
lemma alike_readMap_writeMap (h : (map given).IsExact) :
    (map given).shown.Alike (map (readMap (writeMap given))) := by
  rw [map_readMap_writeMap h, ← shown_canonical h, ← canonical_eq_iff_alike h h.canonical,
    canonical_canonical h]

/-- **Attributes are read as they were written.** Of attributes without floats,
without integers that are too long and with no key twice,

* what a span reads back is alike to them, foreign parts taken as their texts,
  and the resource of a span is read in the same way;
* other such attributes are written as the same text exactly if they are alike;
* the text is ASCII without control characters: the spelling of a value whose
  maps all have ascending keys;
* spans with alike attributes and the same name, process and thread are in one
  run wherever they are neighbours in the order of the clocks;
* and the attributes have a text at all. -/
theorem attributes_read_and_written (h : (map given).IsExact) :
    (∀ span : Span, span.attributes = writeMap given →
      (map given).shown.Alike (map span.readAttributes)) ∧
    (∀ span : Span, span.resource = writeMap given →
      (map given).shown.Alike (map span.readResource)) ∧
    ((∀ text, ¬ IsPart (foreign text) (map given)) → (map given).shown = map given) ∧
    (∀ other, (map other).IsExact →
      (writeMap given = writeMap other ↔ (map given).shown.Alike (map other).shown)) ∧
    (∀ c ∈ (writeMap given).toList, Token.IsAscii c) ∧
    ((writeMap given).toList = (map (readMap (writeMap given))).spelled ∧
      ∀ fields, IsPart (map fields) (map (readMap (writeMap given))) →
        (fields.map (·.1)).Pairwise (· < ·)) ∧
    (∀ (other : List (String × Attribute)) (first second : Span) (spans : List Span),
      (map other).IsExact → (map given).shown.Alike (map other).shown →
      first.attributes = writeMap given → second.attributes = writeMap other →
      first.name = second.name → first.process = second.process → first.thread = second.thread →
      [first, second] <:+: sortByClock spans →
        ∃ run ∈ operationRuns spans, [first, second] <:+: run.toList) ∧
    writeMap? given = some (writeMap given) := by
  refine ⟨fun span hspan => ?_, fun span hspan => ?_, shown_eq_self h,
    fun other => writeMap_eq_iff h, ?_, ⟨?_, fun fields hpart => ?_⟩, ?_,
    writeMap?_eq_some_iff.2 ⟨fun n hpart => isWritable_of_isPart h hpart, rfl⟩⟩
  · rw [Span.readAttributes, hspan]
    exact alike_readMap_writeMap h
  · rw [Span.readResource, hspan]
    exact alike_readMap_writeMap h
  · rw [toList_writeMap]
    exact isAscii_spelled h.canonical
  · rw [toList_writeMap, map_readMap_writeMap h]
  · rw [map_readMap_writeMap h] at hpart
    exact keys_of_isPart_canonical h hpart
  · intro other first second spans hother halike hfirst hsecond hname hprocess hthread hneighbours
    rw [operationRuns, cut_eq_runsOn Span.operation]
    refine exists_run_of_neighbours hneighbours ?_
    have hattributes : first.attributes = second.attributes := by
      rw [hfirst, hsecond, (writeMap_eq_iff h hother).2 halike]
    rw [Span.operation, Span.operation, hname, hprocess, hthread, hattributes]

/-- Attributes that need every kind of escape, in no order. -/
def mixedAttributes : List (String × Attribute) :=
  [("z", int (-5)),
   ("a\"\\\n", map [("\u00e9", text "😀\u007f\u0001"), ("Z", bool true)]),
   ("b", list [null, int 1, foreign "<object>"])]

/-- The same in canonical form. -/
def mixedCanonical : List (String × Attribute) :=
  [("a\"\\\n", map [("Z", bool true), ("\u00e9", text "😀\u007f\u0001")]),
   ("b", list [null, int 1, text "<object>"]),
   ("z", int (-5))]

/-- The attributes are written with their keys in order, and read back up to the
order. A truth value is not written as a number. -/
theorem mixed_attributes_read_again :
    (map mixedAttributes).IsExact ∧
      writeMap mixedAttributes =
        "\x7b\"a\\\"\\\\\\n\":\x7b\"Z\":true,\"\\u00e9\":\"\\ud83d\\ude00\\u007f\\u0001\"\x7d," ++
          "\"b\":[null,1,\"<object>\"],\"z\":-5\x7d" ∧
      (∀ span : Span, span.attributes = writeMap mixedAttributes →
        (map mixedAttributes).shown.Alike (map span.readAttributes)) ∧
      writeMap [("k", bool true)] ≠ writeMap [("k", int 1)] := by
  have hexact : (map mixedAttributes).IsExact := by
    refine .map (by decide) (List.forall_mem_cons.2 ⟨.int (by decide), List.forall_mem_cons.2 ⟨?_,
      List.forall_mem_cons.2 ⟨?_, by simp⟩⟩⟩)
    · refine .map (by decide) ?_
      simp [IsExact.text, IsExact.bool]
    · refine .list ?_
      simp [IsExact.null, IsExact.foreign, IsExact.int (show isWritable 1 = true by decide)]
  have hcanonical : (map mixedAttributes).canonical = map mixedCanonical := by
    simp [mixedAttributes, mixedCanonical, canonical, sortFields, List.mergeSort,
      List.MergeSort.Internal.splitInTwo]
  have htruth : (map [("k", bool true)]).IsExact := .map (by decide) (by simp [IsExact.bool])
  have hnumber : (map [("k", int 1)]).IsExact :=
    .map (by decide) (by simp [IsExact.int (show isWritable 1 = true by decide)])
  refine ⟨hexact, ?_, (attributes_read_and_written hexact).1, fun heq => ?_⟩
  · rw [writeMap, write, hcanonical]
    decide +kernel
  · have halike := ((attributes_read_and_written htruth).2.2.2.1 _ hnumber).1 heq
    have hsame := halike.canonical_eq htruth.shown
    simp [shown, canonical, sortFields] at hsame

end Attribute
end CausalTrace
