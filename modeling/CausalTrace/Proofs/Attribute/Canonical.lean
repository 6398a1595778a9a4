/-
The canonical form of a value decides which values are alike.

* `IsPart`: the values inside a value, itself among them;
* `keys_of_isPart_canonical`: in the canonical form the keys of every map
  ascend;
* `Alike`: values that differ at most in the order of the fields of maps, at
  every level;
* `canonical_eq_iff_alike`: **two values have one canonical form exactly if
  they are alike**, foreign parts taken as their texts.
-/
import CausalTrace.Proofs.Attribute.Value
import Mathlib.Data.List.Forall2
import Mathlib.Data.List.Nodup

namespace CausalTrace
namespace Attribute

variable {value other : Attribute} {fields others : List (String × Attribute)}

/-! ### Canonical forms part by part -/

/-- The canonical form is taken item by item. -/
@[simp] lemma canonicalItems_eq (items : List Attribute) :
    canonicalItems items = items.map canonical := by
  induction items with
  | nil => rfl
  | cons item items ih => rw [canonicalItems, ih, List.map_cons]

/-- The canonical form is taken field by field. -/
@[simp] lemma canonicalFields_eq (fields : List (String × Attribute)) :
    canonicalFields fields = fields.map (Prod.map id canonical) := by
  induction fields with
  | nil => rfl
  | cons field fields ih =>
    rw [canonicalFields, ih, List.map_cons]
    rfl

/-- What is done to the values leaves the keys. -/
@[simp] lemma keys_map (change : Attribute → Attribute) (fields : List (String × Attribute)) :
    (fields.map (Prod.map id change)).map (·.1) = fields.map (·.1) := by
  rw [List.map_map]
  rfl

/-! ### Fields in the order of their keys -/

/-- Sorting keeps the fields. -/
lemma sortFields_perm (fields : List (String × Attribute)) : (sortFields fields).Perm fields :=
  List.mergeSort_perm _ _

/-- Sorting goes by the keys alone. -/
lemma sortFields_map (change : Attribute → Attribute) (fields : List (String × Attribute)) :
    sortFields (fields.map (Prod.map id change)) =
      (sortFields fields).map (Prod.map id change) := by
  rw [sortFields, sortFields, List.map_mergeSort]
  exact fun _ _ _ _ => rfl

/-- Sorted keys do not descend. -/
lemma pairwise_le_sortFields (fields : List (String × Attribute)) :
    (sortFields fields).Pairwise fun a b => a.1 ≤ b.1 := by
  refine (List.pairwise_mergeSort ?_ ?_ fields).imp of_decide_eq_true
  · simp only [decide_eq_true_eq]
    exact fun a b c => String.le_trans
  · simp only [Bool.or_eq_true, decide_eq_true_eq]
    exact fun a b => String.le_total _ _

/-- Sorted keys ascend, if they are all different. -/
lemma pairwise_lt_sortFields (hkeys : (fields.map (·.1)).Nodup) :
    ((sortFields fields).map (·.1)).Pairwise (· < ·) := by
  have hnodup : ((sortFields fields).map (·.1)).Nodup :=
    ((sortFields_perm fields).map _).nodup_iff.2 hkeys
  have hle := List.pairwise_map.2 (pairwise_le_sortFields fields)
  exact (hle.and hnodup).imp fun h => Std.lt_of_le_of_ne h.1 h.2

/-- With different keys the order does not depend on how the fields are given. -/
lemma sortFields_eq_of_perm (hperm : fields.Perm others) (hkeys : (others.map (·.1)).Nodup) :
    sortFields fields = sortFields others := by
  have hothers := sortFields_perm others
  have hfields := (sortFields_perm fields).trans hperm
  refine List.Perm.eq_of_pairwise ?_ (pairwise_le_sortFields _) (pairwise_le_sortFields _)
    (hfields.trans hothers.symm)
  intro a b ha hb hab hba
  exact List.inj_on_of_nodup_map hkeys (hfields.subset ha) (hothers.subset hb)
    (String.le_antisymm hab hba)

/-! ### Exact values in canonical form -/

/-- The canonical form of an exact value is exact. -/
lemma IsExact.canonical (h : value.IsExact) : value.canonical.IsExact := by
  induction h with
  | null => exact .null
  | bool value => exact .bool value
  | int hwritable => exact .int hwritable
  | text value => exact .text value
  | foreign shown => exact .text shown
  | list _ ih =>
    rw [Attribute.canonical, canonicalItems_eq]
    exact .list (List.forall_mem_map.2 ih)
  | @map fields hkeys _ ih =>
    have hperm := sortFields_perm (fields.map (Prod.map id Attribute.canonical))
    rw [Attribute.canonical, canonicalFields_eq]
    refine .map ((hperm.map _).nodup_iff.2 (by rwa [keys_map])) fun field hfield => ?_
    obtain ⟨given, hgiven, rfl⟩ := List.mem_map.1 (hperm.subset hfield)
    exact ih given hgiven

/-- So is an exact value with its foreign parts replaced. -/
lemma IsExact.shown (h : value.IsExact) : value.shown.IsExact := by
  induction h with
  | null => exact .null
  | bool value => exact .bool value
  | int hwritable => exact .int hwritable
  | text value => exact .text value
  | foreign shown => exact .text shown
  | list _ ih =>
    rw [Attribute.shown, shownItems_eq]
    exact .list (List.forall_mem_map.2 ih)
  | @map fields hkeys _ ih =>
    rw [Attribute.shown, shownFields_eq]
    exact .map (by rwa [keys_map]) (List.forall_mem_map.2 ih)

/-- The canonical form has no foreign parts. -/
lemma shown_canonical (h : value.IsExact) : value.canonical.shown = value.canonical := by
  induction h with
  | null | bool _ | int _ | text _ | foreign _ => rfl
  | list _ ih =>
    simp only [Attribute.canonical, shown, canonicalItems_eq, shownItems_eq, List.map_map,
      list.injEq]
    exact List.map_congr_left ih
  | map _ _ ih =>
    simp only [Attribute.canonical, shown, canonicalFields_eq, shownFields_eq, map.injEq,
      ← sortFields_map, List.map_map]
    exact congrArg sortFields (List.map_congr_left fun field hfield =>
      congrArg (Prod.mk field.1) (ih field hfield))

/-- The canonical form takes foreign parts as their texts. -/
lemma canonical_shown (h : value.IsExact) : value.shown.canonical = value.canonical := by
  induction h with
  | null | bool _ | int _ | text _ | foreign _ => rfl
  | list _ ih =>
    simp only [Attribute.canonical, shown, canonicalItems_eq, shownItems_eq, List.map_map,
      list.injEq]
    exact List.map_congr_left ih
  | map _ _ ih =>
    simp only [Attribute.canonical, shown, canonicalFields_eq, shownFields_eq, map.injEq,
      List.map_map]
    exact congrArg sortFields (List.map_congr_left fun field hfield =>
      congrArg (Prod.mk field.1) (ih field hfield))

/-- The canonical form is its own canonical form. -/
lemma canonical_canonical (h : value.IsExact) : value.canonical.canonical = value.canonical := by
  induction h with
  | null | bool _ | int _ | text _ | foreign _ => rfl
  | list _ ih =>
    simp only [Attribute.canonical, canonicalItems_eq, List.map_map, list.injEq]
    exact List.map_congr_left ih
  | @map fields hkeys _ ih =>
    have hagain : (fields.map (Prod.map id Attribute.canonical)).map
        (Prod.map id Attribute.canonical) = fields.map (Prod.map id Attribute.canonical) := by
      rw [List.map_map]
      exact List.map_congr_left fun field hfield => congrArg (Prod.mk field.1) (ih field hfield)
    simp only [Attribute.canonical, canonicalFields_eq, map.injEq, ← sortFields_map, hagain]
    exact sortFields_eq_of_perm (sortFields_perm _) (by rwa [keys_map])

/-! ### Parts -/

/-- A value inside a value, or the value itself. -/
inductive IsPart (part : Attribute) : Attribute → Prop where
  | self : IsPart part part
  | item {items : List Attribute} {item : Attribute} (hmem : item ∈ items)
      (h : IsPart part item) : IsPart part (list items)
  | field {fields : List (String × Attribute)} {field : String × Attribute}
      (hmem : field ∈ fields) (h : IsPart part field.2) : IsPart part (map fields)

/-- In the canonical form the keys of every map ascend. -/
lemma keys_of_isPart_canonical (h : value.IsExact) (hpart : IsPart (map fields) value.canonical) :
    (fields.map (·.1)).Pairwise (· < ·) := by
  induction h with
  | null | bool _ | int _ | text _ | foreign _ => cases hpart
  | list _ ih =>
    rw [Attribute.canonical, canonicalItems_eq] at hpart
    cases hpart with
    | item hmem hpart =>
      obtain ⟨item, hitem, rfl⟩ := List.mem_map.1 hmem
      exact ih item hitem hpart
  | @map given hkeys _ ih =>
    rw [Attribute.canonical, canonicalFields_eq] at hpart
    cases hpart with
    | self => exact pairwise_lt_sortFields (by rwa [keys_map])
    | field hmem hpart =>
      obtain ⟨field, hfield, rfl⟩ := List.mem_map.1 ((sortFields_perm _).subset hmem)
      exact ih field hfield hpart

/-- What changes no member of a list leaves the list. -/
lemma map_eq_self_of_forall {α : Type} {f : α → α} {xs : List α} (h : ∀ x ∈ xs, f x = x) :
    xs.map f = xs :=
  (List.map_congr_left h).trans (List.map_id' xs)

/-- A value without foreign parts is shown as it is. -/
lemma shown_eq_self (h : value.IsExact) (hpart : ∀ shown, ¬ IsPart (foreign shown) value) :
    value.shown = value := by
  induction h with
  | null | bool _ | int _ | text _ => rfl
  | foreign shown => exact absurd .self (hpart shown)
  | list _ ih =>
    rw [shown, shownItems_eq]
    refine congrArg list (map_eq_self_of_forall fun item hitem => ih item hitem ?_)
    exact fun text h => hpart text (.item hitem h)
  | map _ _ ih =>
    rw [shown, shownFields_eq]
    refine congrArg map (map_eq_self_of_forall fun field hfield => ?_)
    exact congrArg (Prod.mk field.1) (ih field hfield fun text h => hpart text (.field hfield h))

/-! ### Alike values -/

/-- Values without floats and foreign parts that differ at most in the order of
the fields of maps: lists are alike item by item, and maps field by field, once
the fields of both have been put in some order. -/
inductive Alike : Attribute → Attribute → Prop where
  | null : Alike null null
  | bool (value : Bool) : Alike (bool value) (bool value)
  | int (value : Int) : Alike (int value) (int value)
  | text (value : String) : Alike (text value) (text value)
  | list {items others : List Attribute} (hlength : items.length = others.length)
      (hitems : ∀ pair ∈ items.zip others, Alike pair.1 pair.2) : Alike (list items) (list others)
  | map {fields others inOrder othersInOrder : List (String × Attribute)}
      (hfields : inOrder.Perm fields) (hothers : othersInOrder.Perm others)
      (hkeys : inOrder.map (·.1) = othersInOrder.map (·.1))
      (hvalues : ∀ pair ∈ inOrder.zip othersInOrder, Alike pair.1.2 pair.2.2) :
      Alike (map fields) (map others)

/-- Lists of equal length have equal images exactly if their members do, one by
one. -/
lemma map_eq_map_iff {α β γ : Type} {f : α → γ} {g : β → γ} {xs : List α} {ys : List β} :
    xs.map f = ys.map g ↔ xs.length = ys.length ∧ ∀ pair ∈ xs.zip ys, f pair.1 = g pair.2 := by
  rw [← List.forall₂_eq_eq_eq, List.forall₂_map_left_iff, List.forall₂_map_right_iff,
    List.forall₂_iff_zip, Prod.forall]

/-- Alike values have one canonical form. -/
lemma Alike.canonical_eq (h : value.Alike other) (hexact : value.IsExact) :
    value.canonical = other.canonical := by
  induction h with
  | null | bool _ | int _ | text _ => rfl
  | list hlength _ ih =>
    cases hexact with
    | list hexact =>
      simp only [canonical, canonicalItems_eq, list.injEq]
      refine map_eq_map_iff.2 ⟨hlength, fun pair hpair => ih pair hpair ?_⟩
      exact hexact _ (List.of_mem_zip hpair).1
  | @map fields others inOrder othersInOrder hfields hothers hkeys _ ih =>
    cases hexact with
    | map hnodup hexact =>
      have hvalues : inOrder.map (Prod.map id canonical) =
          othersInOrder.map (Prod.map id canonical) := by
        obtain ⟨hlength, hkey⟩ := map_eq_map_iff.1 hkeys
        refine map_eq_map_iff.2 ⟨hlength, fun pair hpair => Prod.ext (hkey pair hpair) ?_⟩
        exact ih pair hpair (hexact _ (hfields.subset (List.of_mem_zip hpair).1))
      have hnodup' : (others.map (·.1)).Nodup := by
        rw [← (hothers.map _).nodup_iff, ← hkeys, (hfields.map _).nodup_iff]
        exact hnodup
      simp only [canonical, canonicalFields_eq, map.injEq]
      calc sortFields (fields.map (Prod.map id canonical))
          = sortFields (inOrder.map (Prod.map id canonical)) :=
            (sortFields_eq_of_perm (hfields.map _) (by rwa [keys_map])).symm
        _ = sortFields (othersInOrder.map (Prod.map id canonical)) := by rw [hvalues]
        _ = sortFields (others.map (Prod.map id canonical)) :=
            sortFields_eq_of_perm (hothers.map _) (by rwa [keys_map])

/-- Values with one canonical form are alike. -/
lemma alike_of_canonical_eq (h : value.IsExact) (hother : other.IsExact)
    (heq : value.canonical = other.canonical) : value.shown.Alike other.shown := by
  induction h generalizing other with
  | null =>
    cases hother <;> simp only [canonical, reduceCtorEq] at heq
    exact .null
  | bool value =>
    cases hother <;> simp only [canonical, reduceCtorEq, bool.injEq] at heq
    exact heq ▸ .bool value
  | @int value _ =>
    cases hother <;> simp only [canonical, reduceCtorEq, int.injEq] at heq
    exact heq ▸ .int value
  | text value | foreign value =>
    cases hother <;> simp only [canonical, reduceCtorEq, text.injEq] at heq
    all_goals exact heq ▸ .text value
  | @list items _ ih =>
    cases hother <;> simp only [canonical, reduceCtorEq, canonicalItems_eq, list.injEq] at heq
    rename_i others hothers
    obtain ⟨hlength, hpairs⟩ := map_eq_map_iff.1 heq
    rw [shown, shown, shownItems_eq, shownItems_eq]
    refine .list (by rwa [List.length_map, List.length_map]) ?_
    rw [List.zip_map, List.forall_mem_map]
    intro pair hpair
    have hmem := List.of_mem_zip hpair
    exact ih _ hmem.1 (hothers _ hmem.2) (hpairs pair hpair)
  | @map fields hkeys _ ih =>
    cases hother <;> simp only [canonical, reduceCtorEq, canonicalFields_eq, map.injEq] at heq
    rename_i others hkeys' hothers
    rw [sortFields_map, sortFields_map] at heq
    obtain ⟨hlength, hpairs⟩ := map_eq_map_iff.1 heq
    rw [shown, shown, shownFields_eq, shownFields_eq]
    refine .map ((sortFields_perm fields).map _) ((sortFields_perm others).map _) ?_ ?_
    · rw [keys_map, keys_map]
      exact map_eq_map_iff.2 ⟨hlength, fun pair hpair => (Prod.ext_iff.1 (hpairs pair hpair)).1⟩
    · rw [List.zip_map, List.forall_mem_map]
      intro pair hpair
      have hmem := List.of_mem_zip hpair
      exact ih _ ((sortFields_perm fields).subset hmem.1)
        (hothers _ ((sortFields_perm others).subset hmem.2))
        (Prod.ext_iff.1 (hpairs pair hpair)).2

/-- **Two exact values have one canonical form exactly if they are alike**, their
foreign parts taken as texts. -/
lemma canonical_eq_iff_alike (h : value.IsExact) (hother : other.IsExact) :
    value.canonical = other.canonical ↔ value.shown.Alike other.shown := by
  refine ⟨alike_of_canonical_eq h hother, fun halike => ?_⟩
  rw [← canonical_shown h, ← canonical_shown hother, halike.canonical_eq h.shown]

end Attribute
end CausalTrace
