/-
The near-critical paths of an acyclic causal graph.

* `chainPath`, `pathTo_eq`: a path is told by the chain that it follows;
* `leavesFrom`: the leaves whose chains take at least some time;
* `exists_nearCriticalPaths`: **the near-critical paths are the chains to these
  leaves**, the longest first.
-/
import CausalTrace.Proofs.CriticalPath.Longest
import CausalTrace.Proofs.StableSort

namespace CausalTrace
namespace Graph

variable {g : Graph} {order : List Nat} {node : Nat}

/-- The path along the chain to a node. -/
def chainPath (g : Graph) (node : Nat) : CriticalPath :=
  { path := (g.chain node).map Int.ofNat
    total := g.time (g.chain node)
    durations := (g.chain node).map fun (node : Nat) => ((node : Int), (g.duration node : Int))
    names := (g.chain node).map g.name }

/-- The path to a node is that along its chain. -/
lemma pathTo_eq (hg : g.Linked) (horder : g.TopologicalOrder order) (hnode : node < g.size) :
    g.pathTo (g.distances order) node = g.chainPath node := by
  rw [pathTo, chainPath, getD_distances hg horder hnode]

/-- The leaves whose chains take at least some time. -/
def leavesFrom (g : Graph) (least : Int) : List Nat :=
  g.nodes.filter fun node => (g.childrenOf node).isEmpty && least ≤ g.time (g.chain node)

lemma lt_size_of_mem_leavesFrom {least : Int} (h : node ∈ g.leavesFrom least) : node < g.size :=
  List.mem_range.1 (List.mem_of_mem_filter h)

/-- A graph without nodes has no near-critical paths. -/
lemma nearCriticalPaths_of_size_eq_zero (hg : g.Linked) (h : ¬ g.Cyclic) (hsize : g.size = 0)
    (tolerance : Int) : g.nearCriticalPaths tolerance = .ok [] := by
  obtain ⟨order, hok, -⟩ := exists_order?_eq_ok hg h
  rw [nearCriticalPaths, hok]
  simp only [bind, Except.bind, pure, Except.pure, ranking_eq_nil hsize, Tally.leader?]

/-- **The near-critical paths are the chains to the leaves that take long
enough**, the longest first, among equals the lowest leaf first. What is long enough
is measured from the longest chain of all. -/
lemma exists_nearCriticalPaths (hg : g.Linked) (h : ¬ g.Cyclic) (hsize : 0 < g.size)
    (tolerance : Int) :
    ∃ last < g.size, (∀ node < g.size, g.time (g.chain node) ≤ g.time (g.chain last)) ∧
      ∃ sorted, StablySorted (fun node => -(g.time (g.chain node) : Int))
          (g.leavesFrom (g.time (g.chain last) - max tolerance 0)) sorted ∧
        g.nearCriticalPaths tolerance = .ok (sorted.map g.chainPath) := by
  obtain ⟨order, hok, horder⟩ := exists_order?_eq_ok hg h
  obtain ⟨last, hlast, hleader, hbest⟩ := exists_leader?_ranking hg horder hsize
  have hdistance : ∀ node < g.size, (g.distances order).getD node 0 = g.time (g.chain node) :=
    fun node hnode => getD_distances hg horder hnode
  have hleaves : (g.nodes.filter fun node => (g.childrenOf node).isEmpty).filter (fun node =>
      (g.time (g.chain last) : Int) - max tolerance 0 ≤ (g.distances order).getD node 0) =
        g.leavesFrom (g.time (g.chain last) - max tolerance 0) := by
    rw [List.filter_filter, leavesFrom]
    refine List.filter_congr fun node hnode => ?_
    rw [hdistance node (List.mem_range.1 hnode), Bool.and_comm]
  have horders : (fun a b : Nat => decide
      ((g.distances order).getD b 0 ≤ (g.distances order).getD a 0)) = fun a b =>
        decide (-((g.distances order).getD a 0 : Int) ≤ -((g.distances order).getD b 0 : Int)) := by
    funext a b
    exact decide_eq_decide.2 (by omega)
  have hsorted := (stablySorted_mergeSort
    (fun node => -((g.distances order).getD node 0 : Int))
    (g.leavesFrom (g.time (g.chain last) - max tolerance 0))).congr fun node hnode => by
      rw [hdistance node (lt_size_of_mem_leavesFrom hnode)]
  refine ⟨last, hlast, fun node hnode => ?_, _, hsorted, ?_⟩
  · have := hbest node hnode
    omega
  · rw [nearCriticalPaths, hok]
    simp only [bind, Except.bind, pure, Except.pure, hleader, hleaves, horders]
    refine congrArg Except.ok (List.map_congr_left fun node hnode => ?_)
    exact pathTo_eq hg horder (lt_size_of_mem_leavesFrom (hsorted.perm.subset hnode))

end Graph
end CausalTrace
