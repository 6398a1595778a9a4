/-
Values written as tokens, and read again.

* `IsExact`: values without floats and without integers that are too long,
  the keys of each map all different;
* `shown`: a value with its foreign parts replaced by their texts;
* `IsExact.isSeparated`: the tokens of an exact value are cut apart again;
* `IsExact.isRead`: **where a value is due, its tokens are read as the value**,
  whatever stands around it;
* `read?_spelled`: so a value that is spelled is read, foreign parts as their
  texts.
-/
import CausalTrace.Attribute.Text
import CausalTrace.Proofs.Attribute.Token

namespace CausalTrace
namespace Attribute

variable {value : Attribute} {items : List Attribute} {fields : List (String × Attribute)}
  {rest : List Token} {frames : List Frame} {key : String}

/-! ### Exact values -/

/-- A value that is written without loss: it has no floats, no integers that
are too long, and no map with the same key twice. -/
inductive IsExact : Attribute → Prop where
  | null : IsExact null
  | bool (value : Bool) : IsExact (bool value)
  | int {value : Int} (hwritable : isWritable value = true) : IsExact (int value)
  | text (value : String) : IsExact (text value)
  | foreign (shown : String) : IsExact (foreign shown)
  | list {items : List Attribute} (hitems : ∀ item ∈ items, IsExact item) : IsExact (list items)
  | map {fields : List (String × Attribute)} (hkeys : (fields.map (·.1)).Nodup)
      (hfields : ∀ field ∈ fields, IsExact field.2) : IsExact (map fields)

mutual

/-- A value with its foreign parts replaced by the texts that stand for them,
all else as it is. -/
def shown : Attribute → Attribute
  | foreign shown => text shown
  | list items => list (shownItems items)
  | map fields => map (shownFields fields)
  | value => value

/-- The items of a list, with their foreign parts replaced. -/
def shownItems : List Attribute → List Attribute
  | [] => []
  | item :: rest => item.shown :: shownItems rest

/-- The fields of a map, with their foreign parts replaced. -/
def shownFields : List (String × Attribute) → List (String × Attribute)
  | [] => []
  | (key, value) :: rest => (key, value.shown) :: shownFields rest

end

/-- Foreign parts are replaced item by item. -/
@[simp] lemma shownItems_eq (items : List Attribute) : shownItems items = items.map shown := by
  induction items with
  | nil => rfl
  | cons item items ih => rw [shownItems, ih, List.map_cons]

/-- Foreign parts are replaced field by field. -/
@[simp] lemma shownFields_eq (fields : List (String × Attribute)) :
    shownFields fields = fields.map (Prod.map id shown) := by
  induction fields with
  | nil => rfl
  | cons field fields ih =>
    rw [shownFields, ih, List.map_cons]
    rfl

/-! ### The tokens of a value are separated -/

/-- A value is spelled in separated tokens, if what follows is separated from
it. -/
def IsSeparated (value : Attribute) : Prop :=
  ∀ rest, Token.EndsValue rest → Token.Separated rest → Token.Separated (value.tokens rest)

/-- Items end with a comma or the closing mark, and are separated if each is. -/
lemma separated_itemTokens (hitems : ∀ item ∈ items, item.IsSeparated)
    (hrest : Token.Separated rest) :
    Token.EndsValue (itemTokens items rest) ∧ Token.Separated (itemTokens items rest) := by
  induction items with
  | nil =>
    refine ⟨?_, trivial, False.elim, hrest⟩
    rintro _ ⟨⟩
    exact .inr (.inl rfl)
  | cons item items ih =>
    rw [List.forall_mem_cons] at hitems
    obtain ⟨hends, hseparated⟩ := ih hitems.2
    refine ⟨?_, trivial, False.elim, hitems.1 _ hends hseparated⟩
    rintro _ ⟨⟩
    exact .inl rfl

/-- Fields end with a comma or the closing mark, and are separated if their
values are. -/
lemma separated_fieldTokens (hfields : ∀ field ∈ fields, field.2.IsSeparated)
    (hrest : Token.Separated rest) :
    Token.EndsValue (fieldTokens fields rest) ∧ Token.Separated (fieldTokens fields rest) := by
  induction fields with
  | nil =>
    refine ⟨?_, trivial, False.elim, hrest⟩
    rintro _ ⟨⟩
    exact .inr (.inr rfl)
  | cons field fields ih =>
    rw [List.forall_mem_cons] at hfields
    obtain ⟨hends, hseparated⟩ := ih hfields.2
    refine ⟨?_, trivial, False.elim, trivial, False.elim, trivial, False.elim,
      hfields.1 _ hends hseparated⟩
    rintro _ ⟨⟩
    exact .inl rfl

/-- An exact value is spelled in separated tokens. -/
lemma IsExact.isSeparated (h : value.IsExact) : value.IsSeparated := by
  induction h with
  | null | bool _ | text _ | foreign _ =>
    intro rest _ hrest
    exact ⟨trivial, False.elim, hrest⟩
  | int hwritable =>
    intro rest hends hrest
    exact ⟨hwritable, fun _ => hends, hrest⟩
  | @list items _ ih =>
    intro rest _ hrest
    cases items with
    | nil => exact ⟨trivial, False.elim, trivial, False.elim, hrest⟩
    | cons item items =>
      rw [List.forall_mem_cons] at ih
      obtain ⟨hends, hseparated⟩ := separated_itemTokens ih.2 hrest
      exact ⟨trivial, False.elim, ih.1 _ hends hseparated⟩
  | @map fields _ _ ih =>
    intro rest _ hrest
    cases fields with
    | nil => exact ⟨trivial, False.elim, trivial, False.elim, hrest⟩
    | cons field fields =>
      rw [List.forall_mem_cons] at ih
      obtain ⟨hends, hseparated⟩ := separated_fieldTokens ih.2 hrest
      exact ⟨trivial, False.elim, trivial, False.elim, trivial, False.elim,
        ih.1 _ hends hseparated⟩

/-! ### The tokens of a value are read as the value -/

/-- Wherever the value is due, its tokens are read as the value. -/
def IsRead (value : Attribute) : Prop :=
  ∀ frames rest, due frames (value.tokens rest) = resume value.shown frames rest

/-- No value starts with a closing mark. -/
lemma head?_tokens (value : Attribute) (rest : List Token) :
    (value.tokens rest).head? ≠ some .closeList := by
  cases value with
  | null | bool _ | int _ | float _ | text _ | foreign _ => simp [tokens]
  | list items => cases items <;> simp [tokens]
  | map fields => cases fields <;> simp [tokens]

/-- The items of a list are read up to its closing mark, behind those that have
been read. -/
lemma resume_itemTokens {done : List Attribute} (hitems : ∀ item ∈ items, item.IsRead) :
    resume value (.items done :: frames) (itemTokens items rest) =
      resume (list (done.reverse ++ value :: items.map shown)) frames rest := by
  induction items generalizing value done with
  | nil => rw [itemTokens, resume, List.reverse_cons, List.map_nil]
  | cons item items ih =>
    rw [List.forall_mem_cons] at hitems
    rw [itemTokens, resume, hitems.1, ih hitems.2, List.reverse_cons, List.append_assoc,
      List.map_cons, List.singleton_append]

/-- A key that comes behind others is none of them. -/
lemma notMem_of_nodup {done : List (String × Attribute)}
    (hkeys : ((done ++ (key, value) :: fields).map (·.1)).Nodup) : key ∉ done.map (·.1) := by
  rw [List.map_append, List.map_cons, List.nodup_append] at hkeys
  exact fun hmem => hkeys.2.2 key hmem key List.mem_cons_self rfl

/-- The fields of a map are read up to its closing mark, behind those that have
been read, if no key comes twice. -/
lemma resume_fieldTokens {done : List (String × Attribute)}
    (hkeys : ((done ++ (key, value) :: fields).map (·.1)).Nodup)
    (hfields : ∀ field ∈ fields, field.2.IsRead) :
    resume value (.fields done key :: frames) (fieldTokens fields rest) =
      resume (map (done ++ (key, value) :: fields.map (Prod.map id shown))) frames rest := by
  have hnew := notMem_of_nodup hkeys
  induction fields generalizing key value done with
  | nil => rw [fieldTokens, resume, Keyed.put_of_notMem hnew, List.map_nil]
  | cons field fields ih =>
    rw [List.forall_mem_cons] at hfields
    have hnext :
        ((done ++ [(key, value)] ++ (field.1, field.2.shown) :: fields).map (·.1)).Nodup := by
      simpa using hkeys
    rw [fieldTokens, resume, Keyed.put_of_notMem hnew, hfields.1,
      ih hnext hfields.2 (notMem_of_nodup hnext), List.append_assoc, List.map_cons,
      List.singleton_append]
    rfl

/-- **Where an exact value is due, its tokens are read as the value.** -/
lemma IsExact.isRead (h : value.IsExact) : value.IsRead := by
  induction h with
  | null | bool _ | text _ | foreign _ | int _ =>
    intro frames rest
    rw [tokens, due]
    rfl
  | @list items _ ih =>
    intro frames rest
    cases items with
    | nil =>
      rw [tokens, due]
      rfl
    | cons item items =>
      rw [List.forall_mem_cons] at ih
      have hopen : due frames (.openList :: item.tokens (itemTokens items rest)) =
          due (.items [] :: frames) (item.tokens (itemTokens items rest)) := by
        rw [due]
        intro behind heq
        exact head?_tokens item _ (by rw [heq]; rfl)
      rw [tokens, hopen, ih.1, resume_itemTokens ih.2, shown, shownItems_eq]
      rfl
  | @map fields hkeys _ ih =>
    intro frames rest
    cases fields with
    | nil =>
      rw [tokens, due]
      rfl
    | cons field fields =>
      rw [List.forall_mem_cons] at ih
      rw [tokens, due, ih.1, resume_fieldTokens (by simpa using hkeys) ih.2, shown, shownFields_eq]
      rfl

/-! ### Text -/

/-- The text of a value, the fields of maps in the order in which they stand. -/
def spelled (value : Attribute) : List Char :=
  (value.tokens []).flatMap Token.write

/-- **What is spelled is read**, foreign parts as their texts. -/
lemma read?_spelled (h : value.IsExact) : read? value.spelled = some value.shown := by
  have hseparated : Token.Separated (value.tokens []) :=
    h.isSeparated [] (fun _ hmem => by cases hmem) trivial
  rw [read?, spelled, Token.scan_of_separated hseparated, Option.bind_some, ofTokens?, h.isRead,
    resume]

/-- What is spelled is ASCII. -/
lemma isAscii_spelled (h : value.IsExact) : ∀ c ∈ value.spelled, Token.IsAscii c := by
  have hseparated : Token.Separated (value.tokens []) :=
    h.isSeparated [] (fun _ hmem => by cases hmem) trivial
  exact List.forall_mem_flatMap.2 fun token htoken =>
    Token.isAscii_write (hseparated.isExact htoken)

end Attribute
end CausalTrace
