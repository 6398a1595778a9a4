/-
The nodes of a critical path.

* `Along`: a path leads along some nodes of a graph, and its total is their
  time; `exists_along_longest`: the critical path leads along the longest walk;
* `Along.timeTogether_eq`: its spans take that time;
* `Along.total_le`: so it takes no more time than all spans.
-/
import CausalTrace.Proofs.CriticalPath.Longest
import Mathlib.Algebra.Order.BigOperators.Group.List
import Mathlib.Algebra.Order.Group.Nat
import Mathlib.Data.List.Perm.Subperm

namespace CausalTrace
namespace Graph

variable {g : Graph} {path : CriticalPath} {nodes : List Nat}

lemma timeTogether_eq_sum {spans : List Span} :
    Span.timeTogether spans = (spans.map Span.duration).sum := by
  induction spans with
  | nil => rfl
  | cons span spans ih => rw [timeTogether_cons, ih, List.map_cons, List.sum_cons]

/-- The time of some nodes is that of their spans. -/
lemma timeTogether_filterMap (h : ∀ node ∈ nodes, node < g.size) :
    Span.timeTogether (nodes.filterMap fun node => g.spans[node]?) = g.time nodes := by
  induction nodes with
  | nil => rfl
  | cons node nodes ih =>
    obtain ⟨span, hspan⟩ : ∃ span, g.spans[node]? = some span :=
      ⟨_, Array.getElem?_eq_getElem (h node List.mem_cons_self)⟩
    have hduration : g.duration node = span.duration := by rw [duration, hspan]; rfl
    rw [List.filterMap_cons_some hspan, timeTogether_cons,
      ih fun other hother => h other (List.mem_cons_of_mem _ hother), time, time, List.map_cons,
      List.sum_cons, hduration]

/-- The time of all nodes is that of all spans. -/
lemma time_nodes (g : Graph) : g.time g.nodes = Span.timeTogether g.spans.toList := by
  have hspans : g.nodes.map g.duration = g.spans.toList.map Span.duration := by
    refine List.ext_getElem (by simp [Graph.nodes, size]) fun node hleft hright => ?_
    simp only [List.length_map, Array.length_toList] at hright
    simp [Graph.nodes, duration, hright]
  rw [time, hspans]
  exact timeTogether_eq_sum.symm

/-- A path leads along some nodes, none of them twice, and its total is their
time. -/
structure Along (g : Graph) (path : CriticalPath) (nodes : List Nat) : Prop where
  path_eq : path.path = nodes.map Int.ofNat
  total_eq : path.total = g.time nodes
  lt_size : ∀ node ∈ nodes, node < g.size
  nodup : nodes.Nodup

/-- An acyclic graph has a critical path, which leads along the longest of its walks if it
has any. -/
lemma exists_along_longest (hg : g.Linked) (h : ¬ g.Cyclic) :
    ∃ path nodes, g.criticalPath = .ok path ∧ g.Along path nodes ∧
      (nodes = [] ∨ g.IsWalk nodes) ∧ ∀ walk, g.IsWalk walk → g.time walk ≤ g.time nodes := by
  obtain ⟨order, hok, horder⟩ := exists_order?_eq_ok hg h
  rcases Nat.eq_zero_or_pos g.size with hsize | hsize
  · refine ⟨{}, [], ?_, ⟨rfl, rfl, by simp, List.nodup_nil⟩, Or.inl rfl, fun walk hwalk => ?_⟩
    · rw [criticalPath, hok]
      simp [bind, Except.bind, pure, Except.pure, ranking_eq_nil hsize, Tally.leader?]
    · obtain ⟨node, hnode⟩ := List.exists_mem_of_ne_nil walk hwalk.ne_nil
      have hlt := hwalk.lt_size node hnode
      omega
  · obtain ⟨last, hlast, hpath, hbest⟩ := exists_last hg horder hok hsize
    have hwalk := isWalk_chain hg horder (horder.grounded hg hlast)
    have htotal := congrArg (Nat.cast : Nat → Int) (getD_distances hg horder hlast)
    refine ⟨_, g.chain last, hpath, ⟨rfl, htotal, hwalk.lt_size, hwalk.nodup horder⟩,
      Or.inr hwalk, fun walk h => ?_⟩
    -- every walk is the end of a chain, and no chain takes longer than that to the last node
    have hend := List.getLast?_eq_some_getLast h.ne_nil
    have hchain := h.time_le hg horder hend
    have hnode := hbest _ (h.lt_size _ (List.mem_of_getLast? hend))
    omega

/-- An acyclic graph has a critical path, which leads along nodes. -/
lemma exists_along (hg : g.Linked) (h : ¬ g.Cyclic) :
    ∃ path nodes, g.criticalPath = .ok path ∧ g.Along path nodes := by
  obtain ⟨path, nodes, hpath, halong, -⟩ := exists_along_longest hg h
  exact ⟨path, nodes, hpath, halong⟩

namespace Along

/-- The spans on a path are those of its nodes. -/
lemma filterMap_span? (h : g.Along path nodes) :
    path.path.filterMap g.span? = nodes.filterMap fun node => g.spans[node]? := by
  rw [h.path_eq, List.filterMap_map]
  rfl

/-- The time of the spans on a path is its total. -/
lemma timeTogether_eq (h : g.Along path nodes) :
    (Span.timeTogether (path.path.filterMap g.span?) : Int) = path.total := by
  rw [h.filterMap_span?, h.total_eq, timeTogether_filterMap h.lt_size]

/-- Where there are nodes there are spans. -/
lemma filterMap_span?_ne_nil (h : g.Along path nodes) (hne : path.path ≠ []) :
    path.path.filterMap g.span? ≠ [] := by
  rw [h.path_eq, ne_eq, List.map_eq_nil_iff] at hne
  obtain ⟨node, hnode⟩ := List.exists_mem_of_ne_nil nodes hne
  obtain ⟨span, hspan⟩ : ∃ span, g.spans[node]? = some span :=
    ⟨_, Array.getElem?_eq_getElem (h.lt_size node hnode)⟩
  rw [h.filterMap_span?]
  exact List.ne_nil_of_mem (List.mem_filterMap.2 ⟨node, hnode, hspan⟩)

/-- A path takes no more time than all spans. -/
lemma total_le (h : g.Along path nodes) : path.total ≤ Span.timeTogether g.spans.toList := by
  obtain ⟨order, hperm, hsub⟩ : nodes.Subperm g.nodes :=
    h.nodup.subperm fun node hnode => List.mem_range.2 (h.lt_size node hnode)
  rw [h.total_eq, ← time_nodes]
  refine Int.ofNat_le.2 ?_
  calc g.time nodes = g.time order := ((hperm.map g.duration).sum_eq).symm
    _ ≤ g.time g.nodes := (hsub.map g.duration).sum_le_sum fun _ _ => Nat.zero_le _

end Along
end Graph
end CausalTrace
