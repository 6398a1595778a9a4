/-
Lists in the order of a key, equal keys as they came.

* `StablySorted`: the elements of a list in that order;
* `StablySorted.unique`: there is only one such order, and with different keys it
  does not depend on how the elements are given: `StablySorted.eq_of_perm`;
* `StablySorted.map`, `StablySorted.congr`, `StablySorted.filter`: it is kept when the
  elements or their keys are replaced, or some elements left out;
  `StablySorted.comp`: and when all keys are raised in their order;
* `StablySorted.pairwise`: of equal keys, what is given first comes first;
* `isPrefix_filter_key`: the elements up to a key come first of all;
* `stablySorted_mergeSort`: sorting by merging finds it;
* `stablySorted_sortByClock`, `sortByClock_eq`: so spans are put in the
  order of their clocks.
-/
import CausalTrace.Compression
import Mathlib.Data.List.Nodup

namespace CausalTrace

variable {α : Type} {key : α → Int} {given sorted : List α}

/-- The elements of a list in the order of a key; those with equal keys
keep the order in which they are given. -/
structure StablySorted (key : α → Int) (given sorted : List α) : Prop where
  perm : sorted.Perm given
  ordered : sorted.Pairwise fun a b => key a ≤ key b
  stable : ∀ k, sorted.filter (fun a => key a = k) = given.filter (fun a => key a = k)

/-- The first key of an ordered list is the lowest. -/
lemma key_le_of_mem {x y : α} {ys : List α} (h : (y :: ys).Pairwise fun a b => key a ≤ key b)
    (hx : x ∈ y :: ys) : key y ≤ key x := by
  rcases List.mem_cons.1 hx with rfl | hx
  · exact Int.le_refl _
  · exact List.rel_of_pairwise_cons h hx

/-- Two ordered lists are the same if their elements with each key are. -/
lemma eq_of_filter_eq {xs ys : List α} (hxs : xs.Pairwise fun a b => key a ≤ key b)
    (hys : ys.Pairwise fun a b => key a ≤ key b)
    (h : ∀ k, xs.filter (fun a => key a = k) = ys.filter (fun a => key a = k)) : xs = ys := by
  induction xs generalizing ys with
  | nil =>
    cases ys with
    | nil => rfl
    | cons y ys => simpa using h (key y)
  | cons x xs ih =>
    cases ys with
    | nil => simpa using h (key x)
    | cons y ys =>
      have hx : x ∈ y :: ys := by
        have hmem : x ∈ (x :: xs).filter fun a => key a = key x := by simp
        rw [h] at hmem
        exact (List.mem_filter.1 hmem).1
      have hy : y ∈ x :: xs := by
        have hmem : y ∈ (y :: ys).filter fun a => key a = key y := by simp
        rw [← h] at hmem
        exact (List.mem_filter.1 hmem).1
      have hkey : key x = key y := Int.le_antisymm (key_le_of_mem hxs hy) (key_le_of_mem hys hx)
      have hhead : x = y := by
        have hboth := h (key y)
        rw [List.filter_cons_of_pos (by simp [hkey]), List.filter_cons_of_pos (by simp)] at hboth
        exact (List.cons.inj hboth).1
      subst hhead
      refine congrArg (x :: ·) (ih hxs.of_cons hys.of_cons ?_)
      intro k
      have hboth := h k
      by_cases hk : key x = k
      · rw [List.filter_cons_of_pos (by simp [hk]), List.filter_cons_of_pos (by simp [hk])] at hboth
        exact (List.cons.inj hboth).2
      · rwa [List.filter_cons_of_neg (by simp [hk]),
          List.filter_cons_of_neg (by simp [hk])] at hboth

/-- There is only one stable order. -/
lemma StablySorted.unique {other : List α} (h : StablySorted key given sorted)
    (h' : StablySorted key given other) : sorted = other :=
  eq_of_filter_eq h.ordered h'.ordered fun k => (h.stable k).trans (h'.stable k).symm

/-- With different keys the order does not depend on how the elements are given. -/
lemma StablySorted.eq_of_perm {given' sorted' : List α} (h : StablySorted key given sorted)
    (h' : StablySorted key given' sorted') (hperm : given'.Perm given)
    (hkeys : (given.map key).Nodup) : sorted' = sorted := by
  have hgiven' : sorted'.Perm given := h'.perm.trans hperm
  refine List.Perm.eq_of_pairwise ?_ h'.ordered h.ordered (hgiven'.trans h.perm.symm)
  intro a b ha hb hab hba
  exact List.inj_on_of_nodup_map hkeys (hgiven'.subset ha) (h.perm.subset hb)
    (Int.le_antisymm hab hba)

/-- Replaced elements are in stable order if their keys are. -/
lemma StablySorted.map {β : Type} {f : β → α} {xs ys : List β}
    (h : StablySorted (fun x => key (f x)) xs ys) :
    StablySorted key (xs.map f) (ys.map f) := by
  refine ⟨h.perm.map f, List.pairwise_map.2 h.ordered, fun k => ?_⟩
  rw [List.filter_map, List.filter_map]
  exact congrArg (List.map f) (h.stable k)

/-- An order is stable for another key that the elements have. -/
lemma StablySorted.congr {other : α → Int} (h : StablySorted key given sorted)
    (hkey : ∀ a ∈ given, key a = other a) : StablySorted other given sorted := by
  have hsorted : ∀ a ∈ sorted, key a = other a := fun a ha => hkey a (h.perm.subset ha)
  refine ⟨h.perm, ?_, fun k => ?_⟩
  · refine h.ordered.imp_of_mem fun ha hb hle => ?_
    rwa [← hsorted _ ha, ← hsorted _ hb]
  · calc sorted.filter (fun a => other a = k) = sorted.filter (fun a => key a = k) :=
          List.filter_congr fun a ha => by rw [hsorted a ha]
      _ = given.filter (fun a => key a = k) := h.stable k
      _ = given.filter (fun a => other a = k) :=
          List.filter_congr fun a ha => by rw [hkey a ha]

/-- An order is stable for all keys that are ordered in the same way. -/
lemma StablySorted.comp {f : Int → Int} (hf : ∀ {a b}, a < b → f a < f b)
    (h : StablySorted key given sorted) : StablySorted (fun a => f (key a)) given sorted := by
  have hle : ∀ {a b}, a ≤ b → f a ≤ f b := by
    intro a b hab
    rcases Int.lt_or_eq_of_le hab with hlt | rfl
    · exact Int.le_of_lt (hf hlt)
    · exact Int.le_refl _
  have heq : ∀ {a b}, f a = f b ↔ a = b := by
    refine ⟨fun hab => ?_, congrArg f⟩
    by_contra hne
    rcases Int.lt_or_gt_of_ne hne with hlt | hlt
    · exact Int.ne_of_lt (hf hlt) hab
    · exact Int.ne_of_lt (hf hlt) hab.symm
  refine ⟨h.perm, h.ordered.imp hle, fun k => ?_⟩
  by_cases hk : ∃ k', f k' = k
  · obtain ⟨k', rfl⟩ := hk
    simp only [heq]
    exact h.stable k'
  · have hnone : ∀ xs : List α, xs.filter (fun a => f (key a) = k) = [] := fun xs =>
      List.filter_eq_nil_iff.2 fun a _ hkey => hk ⟨key a, of_decide_eq_true hkey⟩
    rw [hnone, hnone]

/-- A part of an order is the order of a part. -/
lemma StablySorted.filter (h : StablySorted key given sorted) (test : α → Bool) :
    StablySorted key (given.filter test) (sorted.filter test) := by
  refine ⟨h.perm.filter test, h.ordered.sublist List.filter_sublist, fun k => ?_⟩
  simp only [List.filter_filter, Bool.and_comm _ (test _)]
  rw [← List.filter_filter, h.stable k, List.filter_filter]

/-- Of two elements the one with the lower key comes first, and of equal keys the one
that is given first. -/
lemma StablySorted.pairwise {r : α → α → Prop} (h : StablySorted key given sorted)
    (hgiven : given.Pairwise r) :
    sorted.Pairwise fun a b => key a < key b ∨ key a = key b ∧ r a b := by
  rw [List.pairwise_iff_forall_sublist]
  intro a b hsub
  have hle : key a ≤ key b := List.pairwise_iff_forall_sublist.1 h.ordered hsub
  rcases Int.lt_or_eq_of_le hle with hlt | heq
  · exact Or.inl hlt
  · have hpart := hsub.filter fun x => key x = key b
    rw [h.stable, List.filter_cons_of_pos (by simpa using heq),
      List.filter_cons_of_pos (by simp), List.filter_nil] at hpart
    exact Or.inr ⟨heq, List.pairwise_iff_forall_sublist.1 hgiven
      (hpart.trans List.filter_sublist)⟩

/-- In an ordered list the elements up to a key come first. -/
lemma isPrefix_filter_key (h : sorted.Pairwise fun a b => key a ≤ key b) (limit : Int) :
    sorted.filter (fun a => key a ≤ limit) <+: sorted := by
  induction sorted with
  | nil => exact List.prefix_rfl
  | cons x xs ih =>
    by_cases hx : key x ≤ limit
    · rw [List.filter_cons_of_pos (by simpa using hx)]
      exact (List.prefix_cons_inj x).2 (ih h.of_cons)
    · have hnone : (x :: xs).filter (fun a => key a ≤ limit) = [] := by
        refine List.filter_eq_nil_iff.2 fun a ha hle => hx ?_
        exact Int.le_trans (key_le_of_mem h ha) (of_decide_eq_true hle)
      rw [hnone]
      exact List.nil_prefix

/-- Merging sorts stably. -/
lemma stablySorted_mergeSort (key : α → Int) (given : List α) :
    StablySorted key given (given.mergeSort fun a b => decide (key a ≤ key b)) := by
  have htrans : ∀ a b c, decide (key a ≤ key b) = true → decide (key b ≤ key c) = true →
      decide (key a ≤ key c) = true := by
    simp only [decide_eq_true_eq]
    exact fun a b c => Int.le_trans
  have htotal : ∀ a b, (decide (key a ≤ key b) || decide (key b ≤ key a)) = true := by
    simp only [Bool.or_eq_true, decide_eq_true_eq]
    exact fun a b => Int.le_total _ _
  have hperm := given.mergeSort_perm fun a b => decide (key a ≤ key b)
  refine ⟨hperm, ?_, ?_⟩
  · exact (List.pairwise_mergeSort htrans htotal given).imp of_decide_eq_true
  · -- the elements with one key are an ordered part of the list, and so stay in their order
    intro k
    have hpart : (given.filter fun a => key a = k).Sublist
        (given.mergeSort fun a b => decide (key a ≤ key b)) := by
      refine List.sublist_mergeSort htrans htotal ?_ List.filter_sublist
      refine List.pairwise_of_forall_mem_list fun a ha b hb => ?_
      simp only [List.mem_filter, decide_eq_true_eq] at ha hb ⊢
      omega
    have hsub := hpart.filter fun a => key a = k
    rw [List.filter_filter] at hsub
    simp only [Bool.and_self] at hsub
    exact (hsub.eq_of_length (hperm.filter _).length_eq.symm).symm

/-- Spans are put in the stable order of their clocks. -/
lemma stablySorted_sortByClock (spans : List Span) :
    StablySorted (fun span : Span => span.clock) spans (sortByClock spans) :=
  stablySorted_mergeSort _ spans

/-- So there is no other stable order of them. -/
lemma sortByClock_eq {spans inOrder : List Span}
    (h : StablySorted (fun span : Span => span.clock) spans inOrder) :
    sortByClock spans = inOrder :=
  (stablySorted_sortByClock spans).unique h

end CausalTrace
