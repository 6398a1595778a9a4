/-
Critical paths of a graph with its nodes renumbered.

* `Renumbered.chain_eq`, `Renumbered.time_chain`: **a chain is renumbered node by
  node**, and takes the same time;
* `Renumbered.total_eq`: so critical paths take the same time, though they may lead
  to other nodes;
* `Renumbered.criticalPath_eq`: they are the same if the nodes keep their numbers;
* `SpanPath`, `Graph.read`: a path told by the identifiers of its spans;
* `Renumbered.exists_near_perm`: the near-critical paths are the same ones, told so.
-/
import CausalTrace.Proofs.CriticalPath.Bottleneck
import CausalTrace.Proofs.CriticalPath.Near
import CausalTrace.Proofs.Graph.Renumber

namespace CausalTrace

/-- A path told by the identifiers of its spans. -/
structure SpanPath where
  ids : List (Option SpanId)
  total : Int
  durations : List (Option SpanId × Int)
  names : List String
deriving DecidableEq

namespace Graph

variable {g g' : Graph} {number : Nat → Nat} {node : Nat} {nodes order : List Nat}
  {path path' : CriticalPath}

/-- A path with its nodes read as the identifiers of their spans. -/
def read (g : Graph) (path : CriticalPath) : SpanPath :=
  let id (node : Int) : Option SpanId := (g.span? node).map (·.spanId)
  { ids := path.path.map id
    total := path.total
    durations := path.durations.map fun entry => (id entry.1, entry.2)
    names := path.names }

/-- A chain leads along nodes. -/
lemma lt_size_of_mem_chain (hg : g.Linked) (h : ¬ g.Cyclic) (hnode : node < g.size) :
    ∀ other ∈ g.chain node, other < g.size := by
  obtain ⟨order, -, horder⟩ := exists_order?_eq_ok hg h
  exact (isWalk_chain hg horder (horder.grounded hg hnode)).lt_size

/-- The critical path takes as long as the longest chain. -/
lemma exists_total_eq (hg : g.Linked) (hpath : g.criticalPath = .ok path) (hsize : 0 < g.size) :
    ∃ last < g.size, path.total = g.time (g.chain last) ∧
      ∀ node < g.size, g.time (g.chain node) ≤ g.time (g.chain last) := by
  obtain ⟨order, last, horder, hlast, rfl, hbest⟩ := exists_eq_pathTo hg hsize hpath
  exact ⟨last, hlast, congrArg CriticalPath.total (pathTo_eq hg horder hlast), hbest⟩

/-- The critical path of a graph without nodes has none. -/
lemma criticalPath_eq_of_size_eq_zero (h : g.criticalPath = .ok path) (hsize : g.size = 0) :
    path = {} := by
  rw [criticalPath] at h
  cases horder : g.order? with
  | error error => simp [horder, bind, Except.bind] at h
  | ok order =>
    simp only [horder, bind, Except.bind, pure, Except.pure, ranking_eq_nil hsize,
      Tally.leader?] at h
    exact (Except.ok.inj h).symm

/-- A critical path has names exactly if the graph has nodes. -/
lemma names_eq_nil_iff (hg : g.Linked) (hpath : g.criticalPath = .ok path) :
    path.names = [] ↔ g.size = 0 := by
  constructor
  · intro hnames
    by_contra hsize
    obtain ⟨order, last, horder, hlast, rfl, -⟩ :=
      exists_eq_pathTo hg (Nat.pos_of_ne_zero hsize) hpath
    rw [pathTo, List.map_eq_nil_iff] at hnames
    simpa [hnames] using getLast?_chain hg horder last
  · intro hsize
    rw [criticalPath_eq_of_size_eq_zero hpath hsize]

namespace Renumbered

/-! ### Chains -/

/-- The way up from a node is renumbered node by node. -/
lemma chainBefore_eq (h : Renumbered number g g') (hg : g.Linked) (hg' : g'.Linked)
    (hnode : node < g.size) (steps : Nat) (behind : List Nat) :
    g'.chainBefore steps (number node) (behind.map number) =
      (g.chainBefore steps node behind).map number := by
  induction steps generalizing node behind with
  | zero => rfl
  | succ steps ih =>
    rw [chainBefore, chainBefore, h.parent?_eq hg hg' hnode]
    cases hparent : g.parent? node with
    | none => rfl
    | some parent => exact ih (hg.parent_lt hparent) (node :: behind)

/-- **A chain is renumbered node by node.** -/
lemma chain_eq (h : Renumbered number g g') (hg : g.Linked) (hg' : g'.Linked)
    (hnode : node < g.size) : g'.chain (number node) = (g.chain node).map number := by
  rw [chain, chain, h.size_eq]
  exact h.chainBefore_eq hg hg' hnode g.size []

/-- Nodes take the same time together. -/
lemma time_map (h : Renumbered number g g') (hnodes : ∀ node ∈ nodes, node < g.size) :
    g'.time (nodes.map number) = g.time nodes := by
  rw [time, time, List.map_map]
  refine congrArg List.sum (List.map_congr_left fun node hnode => ?_)
  exact h.duration_eq node (hnodes node hnode)

/-- A chain takes the same time. -/
lemma time_chain (h : Renumbered number g g') (hg : g.Linked) (hg' : g'.Linked)
    (hcycle : ¬ g.Cyclic) (hnode : node < g.size) :
    g'.time (g'.chain (number node)) = g.time (g.chain node) := by
  rw [h.chain_eq hg hg' hnode, h.time_map (lt_size_of_mem_chain hg hcycle hnode)]

/-- The longest chains take the same time. -/
lemma time_longest (h : Renumbered number g g') (hg : g.Linked) (hg' : g'.Linked)
    (hcycle : ¬ g.Cyclic) {last last' : Nat} (hlast : last < g.size) (hlast' : last' < g'.size)
    (hbest : ∀ node < g.size, g.time (g.chain node) ≤ g.time (g.chain last))
    (hbest' : ∀ node < g'.size, g'.time (g'.chain node) ≤ g'.time (g'.chain last')) :
    g'.time (g'.chain last') = g.time (g.chain last) := by
  obtain ⟨node, hnode, rfl⟩ := h.exists_eq hlast'
  have hle := hbest node hnode
  have hle' := hbest' (number last) (h.lt_size hlast)
  rw [h.time_chain hg hg' hcycle hnode, h.time_chain hg hg' hcycle hlast] at hle'
  rw [h.time_chain hg hg' hcycle hnode]
  exact Nat.le_antisymm hle hle'

/-- **Critical paths take the same time.** -/
lemma total_eq (h : Renumbered number g g') (hg : g.Linked) (hg' : g'.Linked)
    (hpath : g.criticalPath = .ok path) (hpath' : g'.criticalPath = .ok path') :
    path'.total = path.total := by
  rcases Nat.eq_zero_or_pos g.size with hsize | hsize
  · rw [criticalPath_eq_of_size_eq_zero hpath hsize,
      criticalPath_eq_of_size_eq_zero hpath' (h.size_eq.trans hsize)]
  · obtain ⟨last, hlast, htotal, hbest⟩ := exists_total_eq hg hpath hsize
    obtain ⟨last', hlast', htotal', hbest'⟩ :=
      exists_total_eq hg' hpath' (h.size_eq.symm ▸ hsize)
    rw [htotal, htotal', h.time_longest hg hg' (not_cyclic_of_criticalPath hg hpath) hlast hlast'
      hbest hbest']

/-! ### The same numbers -/

/-- If nodes keep their numbers, so does the path along the chain to a node. -/
lemma chainPath_eq (h : Renumbered id g g') (hg : g.Linked) (hg' : g'.Linked)
    (hcycle : ¬ g.Cyclic) (hnode : node < g.size) : g'.chainPath node = g.chainPath node := by
  have hnodes := lt_size_of_mem_chain hg hcycle hnode
  have hchain : g'.chain node = g.chain node := by simpa using h.chain_eq hg hg' hnode
  have htime : g'.time (g.chain node) = g.time (g.chain node) := by simpa using h.time_map hnodes
  simp only [chainPath, hchain, htime, CriticalPath.mk.injEq, true_and]
  refine ⟨List.map_congr_left fun other hother => ?_, List.map_congr_left fun other hother => ?_⟩
  · exact congrArg (fun duration : Nat => ((other : Int), (duration : Int)))
      (h.duration_eq other (hnodes other hother))
  · exact h.name_eq other (hnodes other hother)

/-- **If nodes keep their numbers, the critical path is the same**, or there is none
for the same reason. -/
lemma criticalPath_eq (h : Renumbered id g g') (hg : g.Linked) (hg' : g'.Linked) :
    g'.criticalPath = g.criticalPath := by
  have hcyclic := h.cyclic_iff hg hg'
  by_cases hcycle : g.Cyclic
  · rw [criticalPath_eq_error_iff.2 (order?_eq_error hg hcycle),
      criticalPath_eq_error_iff.2 (order?_eq_error hg' (hcyclic.2 hcycle))]
  · rcases Nat.eq_zero_or_pos g.size with hsize | hsize
    · obtain ⟨path, -, hpath, -⟩ := exists_along hg hcycle
      obtain ⟨path', -, hpath', -⟩ := exists_along hg' (mt hcyclic.1 hcycle)
      rw [hpath, hpath', criticalPath_eq_of_size_eq_zero hpath hsize,
        criticalPath_eq_of_size_eq_zero hpath' (h.size_eq.trans hsize)]
    · obtain ⟨order, hok, horder⟩ := exists_order?_eq_ok hg hcycle
      obtain ⟨order', hok', horder'⟩ := exists_order?_eq_ok hg' (mt hcyclic.1 hcycle)
      obtain ⟨last, hlast, hpath, hbest⟩ := exists_last hg horder hok hsize
      obtain ⟨last', hlast', hpath', hbest'⟩ :=
        exists_last hg' horder' hok' (h.size_eq.symm ▸ hsize)
      have htime : ∀ node < g.size, g'.time (g'.chain node) = g.time (g.chain node) :=
        fun node hnode => h.time_chain hg hg' hcycle hnode
      -- both paths end at the lowest of the nodes whose chains take longest
      obtain rfl : last' = last := by
        have hlt' : last' < g.size := h.size_eq ▸ hlast'
        have hle := hbest last' hlt'
        have hle' := hbest' last (h.lt_size hlast)
        rw [htime last hlast, htime last' hlt'] at hle'
        omega
      rw [hpath, hpath', pathTo_eq hg horder hlast, pathTo_eq hg' horder' hlast',
        h.chainPath_eq hg hg' hcycle hlast]

/-! ### Near-critical paths -/

/-- The path along the chain to a node is told the same. -/
lemma read_chainPath (h : Renumbered number g g') (hg : g.Linked) (hg' : g'.Linked)
    (hcycle : ¬ g.Cyclic)
    (hspans : ∀ node < g.size, g'.spans[number node]? = g.spans[node]?) (hnode : node < g.size) :
    g'.read (g'.chainPath (number node)) = g.read (g.chainPath node) := by
  have hchain := lt_size_of_mem_chain hg hcycle hnode
  simp only [read, chainPath, h.chain_eq hg hg' hnode, h.time_map hchain, List.map_map,
    SpanPath.mk.injEq, true_and]
  refine ⟨List.map_congr_left fun other hother => ?_, List.map_congr_left fun other hother => ?_,
    List.map_congr_left fun other hother => h.name_eq other (hchain other hother)⟩
  · exact congrArg (Option.map _) (hspans other (hchain other hother))
  · have hspan := hspans other (hchain other hother)
    simp [span?, hspan, h.duration_eq other (hchain other hother)]

/-- The same leaves have chains that take long enough. -/
lemma leavesFrom_perm (h : Renumbered number g g') (hg : g.Linked) (hg' : g'.Linked)
    (hcycle : ¬ g.Cyclic) (least : Int) :
    ((g.leavesFrom least).map number).Perm (g'.leavesFrom least) := by
  refine h.filter_nodes_perm fun node hnode => ?_
  rw [h.isEmpty_childrenOf hg hg' hnode, h.time_chain hg hg' hcycle hnode]

/-- **The near-critical paths are the same ones**, told by their spans. -/
lemma exists_near_perm (h : Renumbered number g g') (hg : g.Linked) (hg' : g'.Linked)
    (hcycle : ¬ g.Cyclic)
    (hspans : ∀ node < g.size, g'.spans[number node]? = g.spans[node]?) (tolerance : Int) :
    ∃ paths paths', g.nearCriticalPaths tolerance = .ok paths ∧
      g'.nearCriticalPaths tolerance = .ok paths' ∧
        (paths'.map g'.read).Perm (paths.map g.read) := by
  have hcycle' : ¬ g'.Cyclic := fun hcyclic => hcycle ((h.cyclic_iff hg hg').1 hcyclic)
  rcases Nat.eq_zero_or_pos g.size with hsize | hsize
  · exact ⟨[], [], nearCriticalPaths_of_size_eq_zero hg hcycle hsize tolerance,
      nearCriticalPaths_of_size_eq_zero hg' hcycle' (h.size_eq.trans hsize) tolerance, .refl _⟩
  obtain ⟨last, hlast, hbest, sorted, hsorted, hpaths⟩ :=
    exists_nearCriticalPaths hg hcycle hsize tolerance
  obtain ⟨last', hlast', hbest', sorted', hsorted', hpaths'⟩ :=
    exists_nearCriticalPaths hg' hcycle' (h.size_eq.symm ▸ hsize) tolerance
  rw [h.time_longest hg hg' hcycle hlast hlast' hbest hbest'] at hsorted'
  refine ⟨_, _, hpaths, hpaths', ?_⟩
  have hleaves := h.leavesFrom_perm hg hg' hcycle (g.time (g.chain last) - max tolerance 0)
  have hread : ((g.leavesFrom (g.time (g.chain last) - max tolerance 0)).map number).map
      (g'.read ∘ g'.chainPath) =
        (g.leavesFrom (g.time (g.chain last) - max tolerance 0)).map (g.read ∘ g.chainPath) := by
    rw [List.map_map]
    exact List.map_congr_left fun node hnode =>
      h.read_chainPath hg hg' hcycle hspans (lt_size_of_mem_leavesFrom hnode)
  have htold := ((hleaves.trans hsorted'.perm.symm).map (g'.read ∘ g'.chainPath)).symm
  rw [hread] at htold
  rw [List.map_map, List.map_map]
  exact htold.trans (hsorted.perm.map _).symm

end Renumbered
end Graph
end CausalTrace
