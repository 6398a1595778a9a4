/-
The spans of each trace, apart from those of others.

* `eraseDups_concat`, `pairwise_idxOf_eraseDups`: without repetitions, keys come in the
  order in which they first came;
* `flatMap_filter_perm`: the elements of each of the keys are all elements together;
* `GroupedByTrace`: spans are put in groups by their traces;
  `groupedByTrace_groupByTrace`: **so all spans are**, and none gets lost.
-/
import CausalTrace.Proofs.Graph.Cycle
import CausalTrace.Report

namespace CausalTrace

open CausalTrace.Graph (OneTrace)

variable {α κ : Type} [DecidableEq κ] {spans : List Span} {group : TraceId × List Span}

/-! ### Keys and the elements under them -/

/-- One more key is a new one or a repetition. -/
lemma eraseDups_concat (keys : List κ) (key : κ) :
    (keys ++ [key]).eraseDups = if key ∈ keys then keys.eraseDups else keys.eraseDups ++ [key] := by
  rw [List.eraseDups_append]
  by_cases h : key ∈ keys <;> simp [List.removeAll, List.eraseDups_cons, h]

/-- Without repetitions, keys come in the order in which they first came. -/
lemma pairwise_idxOf_eraseDups (keys : List κ) :
    keys.eraseDups.Pairwise fun a b => keys.idxOf a < keys.idxOf b := by
  induction keys using List.reverseRecOn with
  | nil => exact List.Pairwise.nil
  | append_singleton keys key ih =>
    have hkeep : ∀ a ∈ keys.eraseDups, (keys ++ [key]).idxOf a = keys.idxOf a := fun a ha =>
      List.idxOf_append_of_mem (List.mem_eraseDups.1 ha)
    have hbefore : keys.eraseDups.Pairwise fun a b =>
        (keys ++ [key]).idxOf a < (keys ++ [key]).idxOf b :=
      ih.imp_of_mem fun {a b} ha hb hlt => by rwa [hkeep a ha, hkeep b hb]
    rw [eraseDups_concat]
    split
    · exact hbefore
    · rename_i hnew
      refine List.pairwise_append.2 ⟨hbefore, List.pairwise_singleton _ _, fun a ha b hb => ?_⟩
      obtain rfl := List.mem_singleton.1 hb
      rw [hkeep a ha, List.idxOf_append_of_notMem hnew]
      exact Nat.lt_add_right _ (List.idxOf_lt_length_of_mem (List.mem_eraseDups.1 ha))

/-- The elements under each of some different keys are all elements, as long as the
keys are those of all. -/
lemma flatMap_filter_perm {key : α → κ} {keys : List κ} {xs : List α} (hnodup : keys.Nodup)
    (hkeys : ∀ x ∈ xs, key x ∈ keys) :
    (keys.flatMap fun k => xs.filter fun x => key x = k).Perm xs := by
  induction keys generalizing xs with
  | nil =>
    rw [List.eq_nil_iff_forall_not_mem.2 fun x hx => List.not_mem_nil (hkeys x hx)]
    exact List.Perm.refl _
  | cons first keys ih =>
    obtain ⟨hfirst, hnodup⟩ := List.nodup_cons.1 hnodup
    -- the elements under the other keys are those that are not under the first
    have hothers : ∀ k ∈ keys, xs.filter (fun x => key x = k) =
        (xs.filter fun x => !decide (key x = first)).filter fun x => key x = k := by
      intro k hk
      rw [List.filter_filter]
      refine List.filter_congr fun x _ => ?_
      have hne : k ≠ first := fun heq => hfirst (heq ▸ hk)
      by_cases hx : key x = k <;> simp [hx, hne]
    have hrest : ∀ x ∈ xs.filter fun x => !decide (key x = first), key x ∈ keys := by
      intro x hx
      obtain ⟨hmem, hne⟩ := List.mem_filter.1 hx
      exact (List.mem_cons.1 (hkeys x hmem)).resolve_left (by simpa using hne)
    rw [List.flatMap_cons, List.flatMap_congr hothers]
    exact ((ih hnodup hrest).append_left _).trans (List.filter_append_perm _ xs)

/-! ### Groups -/

/-- Spans are put in groups by their traces: each is in one group, that of its trace,
and no group is empty. In a group they stay in their order, and the groups come in the
order in which their traces first came. -/
structure GroupedByTrace (spans : List Span) (groups : List (TraceId × List Span)) : Prop where
  perm : (groups.flatMap (·.2)).Perm spans
  traceId_eq : ∀ group ∈ groups, ∀ span ∈ group.2, span.traceId = group.1
  ne_nil : ∀ group ∈ groups, group.2 ≠ []
  sublist : ∀ group ∈ groups, group.2.Sublist spans
  ordered : groups.Pairwise fun a b =>
    (spans.map (·.traceId)).idxOf a.1 < (spans.map (·.traceId)).idxOf b.1

/-- There is a group for each trace, and it has all spans of it. -/
lemma mem_groupByTrace_iff : group ∈ groupByTrace spans ↔
    (∃ span ∈ spans, span.traceId = group.1) ∧
      group.2 = spans.filter fun span => span.traceId = group.1 := by
  obtain ⟨id, members⟩ := group
  simp only [groupByTrace, List.mem_map, List.mem_eraseDups, Prod.mk.injEq]
  constructor
  · rintro ⟨_, hid, rfl, rfl⟩
    exact ⟨hid, rfl⟩
  · rintro ⟨hid, hall⟩
    exact ⟨id, hid, rfl, hall.symm⟩

/-- **All spans are grouped by their traces.** -/
lemma groupedByTrace_groupByTrace (spans : List Span) :
    GroupedByTrace spans (groupByTrace spans) := by
  have hordered := pairwise_idxOf_eraseDups (spans.map (·.traceId))
  have hnodup : (spans.map (·.traceId)).eraseDups.Nodup :=
    hordered.imp fun {a b} hlt heq => Nat.ne_of_lt hlt (congrArg (List.idxOf · _) heq)
  refine ⟨?_, ?_, ?_, ?_, ?_⟩
  · rw [groupByTrace, List.flatMap_map]
    refine flatMap_filter_perm hnodup fun span hspan => ?_
    exact List.mem_eraseDups.2 (List.mem_map_of_mem hspan)
  · intro group hgroup span hspan
    rw [(mem_groupByTrace_iff.1 hgroup).2] at hspan
    exact of_decide_eq_true (List.mem_filter.1 hspan).2
  · intro group hgroup
    obtain ⟨⟨span, hspan, hid⟩, hall⟩ := mem_groupByTrace_iff.1 hgroup
    rw [hall]
    exact List.ne_nil_of_mem (List.mem_filter.2 ⟨hspan, decide_eq_true hid⟩)
  · intro group hgroup
    rw [(mem_groupByTrace_iff.1 hgroup).2]
    exact List.filter_sublist
  · rw [groupByTrace, List.pairwise_map]
    exact hordered

/-- A group is of one trace. -/
lemma GroupedByTrace.oneTrace {groups : List (TraceId × List Span)}
    (h : GroupedByTrace spans groups) (hgroup : group ∈ groups) : OneTrace group.2 :=
  ⟨group.1, h.traceId_eq group hgroup⟩

end CausalTrace
