/-
The critical path of a batch to which spans are added.

* `Within`: the nodes and the edges of a graph are also those of another, and its nodes
  take as long there; `Within.isWalk`, `Within.not_cyclic`: so are its walks and its
  cycles;
* `Within.exists_total_le`: **so the critical path takes no longer than that of a graph
  around it**, as it is the longest of the walks;
* `within_append`: a batch stays within, when a span with a new identifier comes last;
  `late_span_never_shortens`: so the critical path never gets shorter.
-/
import CausalTrace.Proofs.CriticalPath.Nodes
import CausalTrace.Proofs.Graph.Origin

namespace CausalTrace
namespace Graph

variable {g g' : Graph} {nodes : List Nat} {spans : List Span} {span : Span}
  {parent child : Nat}

/-! ### Graphs within others -/

/-- All nodes and edges of a graph are in another, and its nodes take as long there. -/
structure Within (g g' : Graph) : Prop where
  size_le : g.size ≤ g'.size
  edge : ∀ {parent child}, g.Edge parent child → g'.Edge parent child
  duration_eq : ∀ node < g.size, g'.duration node = g.duration node

/-- A walk is a walk in the graph around it. -/
lemma Within.isWalk (h : g.Within g') (hwalk : g.IsWalk nodes) : g'.IsWalk nodes where
  ne_nil := hwalk.ne_nil
  lt_size node hnode := Nat.lt_of_lt_of_le (hwalk.lt_size node hnode) h.size_le
  edges := hwalk.edges.imp fun _ _ => h.edge

/-- It takes as long there. -/
lemma Within.time_eq (h : g.Within g') (hwalk : g.IsWalk nodes) : g'.time nodes = g.time nodes :=
  congrArg List.sum (List.map_congr_left fun node hnode =>
    h.duration_eq node (hwalk.lt_size node hnode))

/-- A cycle is a cycle in the graph around it. -/
lemma Within.not_cyclic (h : g.Within g') (hacyclic : ¬ g'.Cyclic) : ¬ g.Cyclic := by
  rintro ⟨node, hcycle⟩
  exact hacyclic ⟨node, Relation.TransGen.mono (fun _ _ => h.edge) _ _ hcycle⟩

/-- **The critical path takes no longer than that of a graph around it.** -/
lemma Within.exists_total_le (hg : g.Linked) (hg' : g'.Linked) (h : g.Within g')
    (hacyclic : ¬ g'.Cyclic) : ∃ path path', g.criticalPath = .ok path ∧
      g'.criticalPath = .ok path' ∧ path.total ≤ path'.total := by
  obtain ⟨path, nodes, hpath, halong, hnodes, -⟩ := exists_along_longest hg (h.not_cyclic hacyclic)
  obtain ⟨path', nodes', hpath', halong', -, hlongest⟩ := exists_along_longest hg' hacyclic
  refine ⟨path, path', hpath, hpath', ?_⟩
  rw [halong.total_eq, halong'.total_eq, Int.ofNat_le]
  rcases hnodes with rfl | hwalk
  · exact Nat.zero_le _
  · calc g.time nodes = g'.time nodes := (h.time_eq hwalk).symm
      _ ≤ g'.time nodes' := hlongest nodes (h.isWalk hwalk)

/-! ### A span that comes last -/

/-- Where a node hangs does not change, unless the span that is added has the identifier
of its parent. -/
lemma HangsBelow.append (hnew : span.spanId ∉ spans.map (·.spanId))
    (h : HangsBelow spans parent child) : HangsBelow (spans ++ [span]) parent child := by
  obtain ⟨above, below, habove, hbelow, hid, hlast⟩ := h
  have hold : ∀ {node : Nat} {other : Span}, spans[node]? = some other →
      (spans ++ [span])[node]? = some other := by
    intro node other hother
    obtain ⟨hlt, -⟩ := List.getElem?_eq_some_iff.1 hother
    rw [List.getElem?_append_left hlt, hother]
  refine ⟨above, below, hold habove, hold hbelow, hid, fun later other hlater hother => ?_⟩
  rcases Nat.lt_or_ge later spans.length with hlt | hge
  · rw [List.getElem?_append_left hlt] at hother
    exact hlast later other hlater hother
  · -- only the new span is behind all others, and its identifier is that of none
    rw [List.getElem?_append_right hge] at hother
    obtain rfl := List.mem_singleton.1 (List.mem_of_getElem? hother)
    intro heq
    exact hnew (heq ▸ List.mem_map_of_mem (List.mem_of_getElem? habove))

/-- A batch stays within, when a span with a new identifier comes last. -/
lemma within_append (hnew : span.spanId ∉ spans.map (·.spanId)) :
    (build spans).Within (build (spans ++ [span])) where
  size_le := by simp [size_build]
  edge h := edge_build_iff.2 ((edge_build_iff.1 h).append hnew)
  duration_eq node hnode := by
    have hlt : node < spans.length := size_build spans ▸ hnode
    simp [duration, List.getElem?_append_left hlt]

/-- **A late span never shortens the critical path.** Add a span of the same trace to a
batch, with an identifier that no span of the batch has. Its parent may be any, and it may
be the one that orphans of the batch have been waiting for. If the graph is acyclic then
it was so before, and its critical path takes at least as long as before. -/
theorem late_span_never_shortens (hone : OneTrace (spans ++ [span]))
    (hnew : span.spanId ∉ spans.map (·.spanId)) :
    ∃ g g', ofSpans spans = .ok g ∧ ofSpans (spans ++ [span]) = .ok g' ∧
      (¬ g'.Cyclic → ¬ g.Cyclic ∧ ∃ path path', g.criticalPath = .ok path ∧
        g'.criticalPath = .ok path' ∧ path.total ≤ path'.total) := by
  have hbefore : OneTrace spans := by
    obtain ⟨id, hid⟩ := hone
    exact ⟨id, fun other hother => hid other (List.mem_append_left _ hother)⟩
  have hwithin := within_append hnew
  refine ⟨_, _, ofSpans_of_oneTrace hbefore, ofSpans_of_oneTrace hone, fun hacyclic => ?_⟩
  exact ⟨hwithin.not_cyclic hacyclic,
    hwithin.exists_total_le (linked_build _) (linked_build _) hacyclic⟩

/-- Two orphans that wait for the same parent, and a child of the second. -/
def waitingOrphans : List Span :=
  [{ name := "short", startTime := 4, endTime := 7, clock := 2, process := 1, thread := 1,
     traceId := .ofNat 16 7, spanId := .ofNat 8 1, parentId := some (.ofNat 8 4) },
   { name := "long", startTime := 4, endTime := 9, clock := 3, process := 2, thread := 1,
     traceId := .ofNat 16 7, spanId := .ofNat 8 2, parentId := some (.ofNat 8 4) },
   { name := "end", startTime := 9, endTime := 10, clock := 4, process := 2, thread := 1,
     traceId := .ofNat 16 7, spanId := .ofNat 8 3, parentId := some (.ofNat 8 2) }]

/-- The span that they wait for: it hangs below no span of the batch itself. -/
def awaitedParent : Span :=
  { name := "parent", startTime := 0, endTime := 4, clock := 1, process := 1, thread := 1,
    traceId := .ofNat 16 7, spanId := .ofNat 8 4, parentId := some (.ofNat 8 9) }

/-- The parent adopts both orphans, and the critical path grows from its front. -/
theorem awaited_parent_lengthens :
    OneTrace (waitingOrphans ++ [awaitedParent]) ∧
      awaitedParent.spanId ∉ waitingOrphans.map (·.spanId) ∧
      ∃ g g' path path', ofSpans waitingOrphans = .ok g ∧
        ofSpans (waitingOrphans ++ [awaitedParent]) = .ok g' ∧ ¬ g.Cyclic ∧ ¬ g'.Cyclic ∧
        g.criticalPath = .ok path ∧ g'.criticalPath = .ok path' ∧ path.path = [1, 2] ∧
        path.total = 6 ∧ path'.path = [3, 1, 2] ∧ path'.total = 10 ∧ path.total ≤ path'.total := by
  have hone : OneTrace (waitingOrphans ++ [awaitedParent]) :=
    ⟨.ofNat 16 7, by simp [waitingOrphans, awaitedParent]⟩
  have hnew : awaitedParent.spanId ∉ waitingOrphans.map (·.spanId) := by decide
  obtain ⟨g, g', hg, hg', hlater⟩ := late_span_never_shortens hone hnew
  obtain ⟨-, rfl⟩ := ofSpans_eq_ok_iff.1 hg
  obtain ⟨-, rfl⟩ := ofSpans_eq_ok_iff.1 hg'
  have hacyclic : ¬ (build (waitingOrphans ++ [awaitedParent])).Cyclic :=
    (isAcyclic_iff (linked_build _)).1 (by cbv)
  obtain ⟨hbefore, path, path', hpath, hpath', hle⟩ := hlater hacyclic
  have heval : (build waitingOrphans).criticalPath = .ok
      { path := [1, 2], total := 6, durations := [(1, 5), (2, 1)], names := ["long", "end"] } := by
    have hok : (build waitingOrphans).order? = .ok [1, 2, 0] := by cbv
    have hranking : (build waitingOrphans).ranking ((build waitingOrphans).distances [1, 2, 0]) =
        [(0, 3), (1, 5), (2, 6)] := by
      cbv
    rw [criticalPath_eq_pathTo hok hranking rfl]
    cbv
  have heval' : (build (waitingOrphans ++ [awaitedParent])).criticalPath = .ok
      { path := [3, 1, 2], total := 10, durations := [(3, 4), (1, 5), (2, 1)],
        names := ["parent", "long", "end"] } := by
    have hok : (build (waitingOrphans ++ [awaitedParent])).order? = .ok [3, 1, 2, 0] := by cbv
    have hranking : (build (waitingOrphans ++ [awaitedParent])).ranking
        ((build (waitingOrphans ++ [awaitedParent])).distances [3, 1, 2, 0]) =
          [(0, 7), (1, 9), (2, 10), (3, 4)] := by
      cbv
    rw [criticalPath_eq_pathTo hok hranking rfl]
    cbv
  obtain rfl := Except.ok.inj (heval.symm.trans hpath)
  obtain rfl := Except.ok.inj (heval'.symm.trans hpath')
  exact ⟨hone, hnew, _, _, _, _, hg, hg', hbefore, hacyclic, hpath, hpath', rfl, rfl, rfl, rfl, hle⟩

end Graph
end CausalTrace
