/-
The critical path is the longest walk of an acyclic causal graph.

* `exists_leader?_ranking`, `exists_last`: the critical path is the chain to the
  lowest of the nodes whose chains take longest;
* `elapsed`: what the spans of some nodes take; `natCast_time_build`, `pathTo_build`:
  the nodes of a batch take as long, and a path lists the durations and names of its spans;
* `critical_path_is_longest`: it starts at a root or an orphan, follows the
  edges, and no walk of the graph takes longer.
-/
import CausalTrace.Proofs.CriticalPath.Chain
import CausalTrace.Proofs.Graph.Origin
import CausalTrace.Proofs.Time
import Mathlib.Algebra.Ring.Int.Defs

namespace CausalTrace
namespace Graph

variable {g : Graph} {order : List Nat}

/-! ### The last node -/

/-- The ranking of the nodes lists each with the time along its chain. -/
lemma mem_ranking_iff (hg : g.Linked) (horder : g.TopologicalOrder order) {entry : Int × Int} :
    entry ∈ g.ranking (g.distances order) ↔
      ∃ node < g.size, entry = ((node : Int), (g.time (g.chain node) : Int)) := by
  rw [ranking, List.mem_map]
  refine exists_congr fun node => ?_
  rw [nodes, List.mem_range]
  refine and_congr_right fun hnode => ?_
  rw [getD_distances hg horder hnode, eq_comm]

/-- A graph without nodes ranks none. -/
lemma ranking_eq_nil (hsize : g.size = 0) (distances : Array Nat) : g.ranking distances = [] := by
  simp [ranking, nodes, hsize]

/-- The leader of the ranking is the lowest of the nodes whose chains take
longest. -/
lemma exists_leader?_ranking (hg : g.Linked) (horder : g.TopologicalOrder order)
    (hsize : 0 < g.size) :
    ∃ last < g.size, Tally.leader? (g.ranking (g.distances order)) =
        some ((last : Int), (g.time (g.chain last) : Int)) ∧
      ∀ node < g.size, g.time (g.chain node) < g.time (g.chain last) ∨
        (g.time (g.chain node) = g.time (g.chain last) ∧ last ≤ node) := by
  have hne : g.ranking (g.distances order) ≠ [] := by
    simp [ranking, nodes, Nat.ne_of_gt hsize]
  obtain ⟨entry, hleader⟩ := Tally.exists_leader hne
  obtain ⟨hmem, hbest⟩ := Tally.leader?_eq_some_iff.1 hleader
  obtain ⟨last, hlast, rfl⟩ := (mem_ranking_iff hg horder).1 hmem
  refine ⟨last, hlast, hleader, fun node hnode => ?_⟩
  have hnode' := hbest _ ((mem_ranking_iff hg horder).2 ⟨node, hnode, rfl⟩)
  rw [Tally.NoWorse] at hnode'
  omega

/-- The critical path ends at the leader of the ranking. -/
lemma criticalPath_eq_pathTo {ranking : List (Int × Int)} {last total : Int}
    (hok : g.order? = .ok order) (hranking : g.ranking (g.distances order) = ranking)
    (hleader : Tally.leader? ranking = some (last, total)) :
    g.criticalPath = .ok (g.pathTo (g.distances order) last.toNat) := by
  rw [criticalPath, hok]
  simp only [bind, Except.bind, hranking, hleader]
  rfl

/-- The critical path is the chain to the lowest of the nodes whose chains
take longest. -/
lemma exists_last (hg : g.Linked) (horder : g.TopologicalOrder order)
    (hok : g.order? = .ok order) (hsize : 0 < g.size) :
    ∃ last < g.size, g.criticalPath = .ok (g.pathTo (g.distances order) last) ∧
      ∀ node < g.size, g.time (g.chain node) < g.time (g.chain last) ∨
        (g.time (g.chain node) = g.time (g.chain last) ∧ last ≤ node) := by
  obtain ⟨last, hlast, hleader, hbest⟩ := exists_leader?_ranking hg horder hsize
  exact ⟨last, hlast, criticalPath_eq_pathTo hok rfl hleader, hbest⟩

/-! ### The spans along a walk -/

/-- What the spans of some nodes take, from their starts to their ends, added up; a span
that ends before it starts takes no time. -/
def elapsed (spans : List Span) (nodes : List Nat) : Int :=
  (nodes.map fun node =>
    (spans[node]?).elim 0 fun span => max (span.endTime - span.startTime) 0).sum

/-- Some nodes of a batch take as long as their spans. -/
lemma natCast_time_build (spans : List Span) (nodes : List Nat) :
    ((build spans).time nodes : Int) = elapsed spans nodes := by
  induction nodes with
  | nil => rfl
  | cons node nodes ih =>
    have hnode : ((build spans).duration node : Int) =
        (spans[node]?).elim 0 fun span => max (span.endTime - span.startTime) 0 := by
      rw [duration, spans_build, List.getElem?_toArray]
      cases spans[node]? with
      | none => rfl
      | some span => exact natCast_duration span
    rw [time] at ih ⊢
    rw [elapsed, List.map_cons, List.map_cons, List.sum_cons, List.sum_cons, ← hnode, ← elapsed,
      ← ih, Nat.cast_add]

/-- The path to a node lists the names of the spans along its chain, in order, and the
durations of these by node. -/
lemma pathTo_build (spans : List Span) (distances : Array Nat) {last : Nat}
    (hnodes : ∀ node ∈ (build spans).chain last, node < spans.length) :
    (((build spans).pathTo distances last).durations.map some =
      ((build spans).chain last).map fun node : Nat => (spans[node]?).map fun span =>
        ((node : Int), max (span.endTime - span.startTime) 0)) ∧
    ((build spans).pathTo distances last).names.map some =
      ((build spans).chain last).map fun node => (spans[node]?).map (·.name) := by
  rw [pathTo, List.map_map, List.map_map]
  constructor <;> refine List.map_congr_left fun node hnode => ?_
  · have hspan := List.getElem?_eq_getElem (hnodes node hnode)
    rw [hspan, Option.map_some, ← natCast_duration, ← duration_build hspan]
    rfl
  · have hspan := List.getElem?_eq_getElem (hnodes node hnode)
    rw [hspan, Function.comp_apply, name, spans_build, List.getElem?_toArray, hspan]
    rfl

/-- **The critical path is the longest walk**: every batch of one trace
with an acyclic graph has a critical path. It starts at a root or an
orphan, where no edge leads to, follows the edges, which lead to the nodes that
hang below others, without meeting a node twice, and its total is the time of the
spans along it. No walk of the graph takes longer, and its last node is the lowest of
those at which such a walk can end. The durations and the names are those of its
spans, in order. -/
theorem critical_path_is_longest {spans : List Span} (hne : spans ≠ []) (hone : OneTrace spans) :
    ∃ g, ofSpans spans = .ok g ∧
      (∀ parent child, g.Edge parent child ↔ HangsBelow spans parent child) ∧ (¬ g.Cyclic →
      ∃ (path : CriticalPath) (nodes : List Nat),
        g.criticalPath = .ok path ∧ path.path = nodes.map Int.ofNat ∧
        (∃ first, nodes.head? = some first ∧ g.IsTop first ∧ ∀ parent, ¬ g.Edge parent first) ∧
        g.IsWalk nodes ∧ nodes.Nodup ∧
        path.total = elapsed spans nodes ∧
        (∀ walk, g.IsWalk walk → elapsed spans walk ≤ path.total) ∧
        (∃ last, nodes.getLast? = some last ∧ ∀ walk node, g.IsWalk walk →
          walk.getLast? = some node → elapsed spans walk = path.total → last ≤ node) ∧
        (path.durations.map some = nodes.map fun node : Nat => (spans[node]?).map fun span =>
          ((node : Int), max (span.endTime - span.startTime) 0)) ∧
        path.names.map some = nodes.map fun node => (spans[node]?).map (·.name)) := by
  have hg := linked_build spans
  refine ⟨build spans, ofSpans_of_oneTrace hone, fun _ _ => edge_build_iff, ?_⟩
  intro hcycle
  obtain ⟨order, hok, horder⟩ := exists_order?_eq_ok hg hcycle
  have hsize : 0 < (build spans).size := size_build spans ▸ List.length_pos_iff.2 hne
  obtain ⟨last, hlast, hpath, hbest⟩ := exists_last hg horder hok hsize
  have hgrounded := horder.grounded hg hlast
  have hwalk := isWalk_chain hg horder hgrounded
  obtain ⟨first, hhead, htop⟩ := exists_head?_chain hg horder hgrounded
  have htotal : ((build spans).pathTo ((build spans).distances order) last).total =
      (build spans).time ((build spans).chain last) :=
    congrArg Nat.cast (getD_distances hg horder hlast)
  obtain ⟨hdurations, hnames⟩ := pathTo_build spans ((build spans).distances order)
    fun node hnode => size_build spans ▸ hwalk.lt_size node hnode
  -- every walk is the end of a chain, and no chain takes longer than that to the last node
  have hlongest : ∀ walk, (build spans).IsWalk walk →
      (build spans).time walk ≤ (build spans).time ((build spans).chain last) := by
    intro walk h
    have hnode := List.getLast?_eq_some_getLast h.ne_nil
    have hle := h.time_le hg horder hnode
    have hlt := hbest _ (h.lt_size _ (List.mem_of_getLast? hnode))
    omega
  have hlowest : ∀ walk node, (build spans).IsWalk walk → walk.getLast? = some node →
      (build spans).time walk = (build spans).time ((build spans).chain last) → last ≤ node := by
    intro walk node h hnode htime
    have hle := h.time_le hg horder hnode
    have hlt := hbest node (h.lt_size node (List.mem_of_getLast? hnode))
    omega
  simp only [← natCast_time_build]
  refine ⟨_, (build spans).chain last, hpath, rfl,
    ⟨first, hhead, htop, fun parent => hg.not_edge_of_isTop htop⟩, hwalk, hwalk.nodup horder,
    htotal, ?_, ⟨last, getLast?_chain hg horder last, ?_⟩, hdurations, hnames⟩
  · intro walk h
    rw [htotal]
    exact Int.ofNat_le.2 (hlongest walk h)
  · intro walk node h hnode htime
    exact hlowest walk node h hnode (Int.ofNat.inj (htime.trans htotal))

/-- A span that takes two and comes after its child of three, an orphan that
takes five, and a child of the first that takes no time. -/
def lateParent : List Span :=
  [{ name := "child", startTime := 2, endTime := 5, clock := 1, process := 1, thread := 1,
     traceId := .ofNat 16 7, spanId := .ofNat 8 1, parentId := some (.ofNat 8 2) },
   { name := "parent", startTime := 0, endTime := 2, clock := 0, process := 1, thread := 1,
     traceId := .ofNat 16 7, spanId := .ofNat 8 2, parentId := none },
   { name := "orphan", startTime := 0, endTime := 5, clock := 2, process := 2, thread := 1,
     traceId := .ofNat 16 7, spanId := .ofNat 8 3, parentId := some (.ofNat 8 9) },
   { name := "mark", startTime := 5, endTime := 4, clock := 3, process := 1, thread := 1,
     traceId := .ofNat 16 7, spanId := .ofNat 8 4, parentId := some (.ofNat 8 1) }]

/-- Its critical path leads from the parent to the child. -/
lemma criticalPath_lateParent : (build lateParent).criticalPath = .ok
    { path := [1, 0], total := 5, durations := [(1, 2), (0, 3)],
      names := ["parent", "child"] } := by
  have hok : (build lateParent).order? = .ok [2, 1, 0, 3] := by cbv
  have hranking : (build lateParent).ranking ((build lateParent).distances [2, 1, 0, 3]) =
      [(0, 5), (1, 2), (2, 5), (3, 5)] := by
    cbv
  rw [criticalPath_eq_pathTo hok hranking rfl]
  cbv

/-- Three walks take five; the path ends at the lowest node among their
ends. -/
theorem late_parent_comes_first :
    lateParent ≠ [] ∧ OneTrace lateParent ∧ ∃ g path, ofSpans lateParent = .ok g ∧
      ¬ g.Cyclic ∧ g.criticalPath = .ok path ∧ path.path = [1, 0] ∧ path.total = 5 ∧
      path.durations = [(1, 2), (0, 3)] ∧ path.names = ["parent", "child"] ∧
      elapsed lateParent [1, 0] = 5 ∧
      ∀ walk, g.IsWalk walk → elapsed lateParent walk ≤ path.total := by
  have hne : lateParent ≠ [] := by simp [lateParent]
  have hone : OneTrace lateParent := ⟨.ofNat 16 7, by simp [lateParent]⟩
  obtain ⟨g, hg, -, hlongest⟩ := critical_path_is_longest hne hone
  obtain rfl : build lateParent = g := Except.ok.inj ((ofSpans_of_oneTrace hone).symm.trans hg)
  have hcycle : ¬ (build lateParent).Cyclic :=
    (isAcyclic_iff (linked_build lateParent)).1 (by cbv)
  obtain ⟨path, -, hpath, -, -, -, -, -, hbest, -⟩ := hlongest hcycle
  obtain rfl := Except.ok.inj (criticalPath_lateParent.symm.trans hpath)
  exact ⟨hne, hone, _, _, hg, hcycle, hpath, rfl, rfl, rfl, rfl, rfl, hbest⟩

end Graph
end CausalTrace
