/-
The bottleneck of a critical path: the node on it that takes longest.

* `exists_eq_pathTo`: a critical path is the chain to a node;
* `exists_leader?_durations`: the bottleneck is one of its nodes, and no other
  takes longer; `time_le_mul`: so the path takes at most that time for each of
  its nodes;
* `duration_le_totalDuration`: no node takes longer than the whole batch.
-/
import CausalTrace.Proofs.CriticalPath.Nodes

namespace CausalTrace
namespace Graph

variable {g : Graph} {path : CriticalPath} {nodes : List Nat} {node : Nat}

/-- Only an acyclic graph has a critical path. -/
lemma not_cyclic_of_criticalPath (hg : g.Linked) (h : g.criticalPath = .ok path) :
    ¬ g.Cyclic := by
  intro hcycle
  rw [criticalPath_eq_error_iff.2 (order?_eq_error hg hcycle)] at h
  cases h

/-- A critical path leads along nodes. -/
lemma exists_along_of_criticalPath (hg : g.Linked) (h : g.criticalPath = .ok path) :
    ∃ nodes, g.Along path nodes := by
  obtain ⟨_, nodes, hpath, halong⟩ := exists_along hg (not_cyclic_of_criticalPath hg h)
  obtain rfl := Except.ok.inj (hpath.symm.trans h)
  exact ⟨nodes, halong⟩

/-- The critical path is the chain to a node, and no chain takes longer. -/
lemma exists_eq_pathTo (hg : g.Linked) (hsize : 0 < g.size) (h : g.criticalPath = .ok path) :
    ∃ order last, g.TopologicalOrder order ∧ last < g.size ∧
      path = g.pathTo (g.distances order) last ∧
      ∀ node < g.size, g.time (g.chain node) ≤ g.time (g.chain last) := by
  obtain ⟨order, hok, horder⟩ := exists_order?_eq_ok hg (not_cyclic_of_criticalPath hg h)
  obtain ⟨last, hlast, hpath, hbest⟩ := exists_last hg horder hok hsize
  refine ⟨order, last, horder, hlast, Except.ok.inj (h.symm.trans hpath), fun node hnode => ?_⟩
  have hnode := hbest node hnode
  omega

/-- Among some nodes the one that takes longest is a node, and no other takes
longer. -/
lemma exists_leader?_durations (hne : nodes ≠ []) :
    ∃ node ∈ nodes,
      Tally.leader? (nodes.map fun node : Nat => ((node : Int), (g.duration node : Int))) =
        some ((node : Int), (g.duration node : Int)) ∧
      ∀ other ∈ nodes, g.duration other ≤ g.duration node := by
  have hentries : (nodes.map fun node : Nat => ((node : Int), (g.duration node : Int))) ≠ [] := by
    simpa using hne
  obtain ⟨entry, hentry⟩ := Tally.exists_leader hentries
  obtain ⟨hmem, hbest⟩ := Tally.leader?_eq_some_iff.1 hentry
  obtain ⟨node, hnode, rfl⟩ := List.mem_map.1 hmem
  refine ⟨node, hnode, hentry, fun other hother => ?_⟩
  have hother := hbest _ (List.mem_map_of_mem hother)
  rw [Tally.NoWorse] at hother
  omega

/-- A node takes no longer than all together. -/
lemma duration_le_time (h : node ∈ nodes) : g.duration node ≤ g.time nodes :=
  List.le_sum_of_mem (List.mem_map_of_mem h)

/-- Nodes that all keep to a limit take together at most the limit for each. -/
lemma time_le_mul {limit : Nat} (h : ∀ other ∈ nodes, g.duration other ≤ limit) :
    g.time nodes ≤ nodes.length * limit := by
  have hle := List.sum_le_card_nsmul (nodes.map g.duration) limit (by simpa using h)
  rwa [List.length_map, Nat.nsmul_eq_mul] at hle

/-- No node takes longer than from the earliest start to the latest end. -/
lemma duration_le_totalDuration (h : node < g.size) : g.duration node ≤ g.totalDuration := by
  have hspan : g.spans[node]? = some g.spans[node] := Array.getElem?_eq_getElem h
  have hmem : g.spans[node] ∈ g.spans.toList := Array.getElem_mem_toList h
  have hne : g.spans.toList ≠ [] := List.ne_nil_of_mem hmem
  obtain ⟨start, hstart⟩ : ∃ start, (g.spans.toList.map (·.startTime)).min? = some start :=
    Option.isSome_iff_exists.1 (by simpa [List.isSome_min?_iff] using hne)
  obtain ⟨stop, hstop⟩ : ∃ stop, (g.spans.toList.map (·.endTime)).max? = some stop :=
    Option.isSome_iff_exists.1 (by simpa [List.isSome_max?_iff] using hne)
  have hle : start ≤ g.spans[node].startTime :=
    (List.min?_eq_some_iff.1 hstart).2 _ (List.mem_map_of_mem hmem)
  have hge : g.spans[node].endTime ≤ stop :=
    (List.max?_eq_some_iff.1 hstop).2 _ (List.mem_map_of_mem hmem)
  simp only [totalDuration, hstart, hstop, duration, hspan, Option.elim_some, Span.duration]
  omega

end Graph
end CausalTrace
