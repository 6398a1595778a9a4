/-
The near-critical paths lead to leaves.

* `LeadsTo`: the whole way to a node, from a root or an orphan; `leadsTo_iff`: there
  is one such way, the chain to the node;
* `exists_leaf`: from every node of an acyclic graph the way goes on to a leaf;
* `NearLeaves`: the leaves whose ways take long enough, in the order in which they are
  listed; `nearLeaves_of_stablySorted`, `prefix_of_stablySorted`: a longer list goes on
  from a shorter one;
* `near_paths_reach_leaves`: **the near-critical paths are the ways to these leaves**,
  and the critical path is the front of one of them.
-/
import CausalTrace.Proofs.CriticalPath.Near

namespace CausalTrace
namespace Graph

variable {g : Graph} {order nodes front leaves : List Nat} {node last : Nat}

/-! ### Ways to leaves -/

/-- The whole way to a node: along edges, from a root or an orphan. -/
structure LeadsTo (g : Graph) (node : Nat) (nodes : List Nat) : Prop where
  walk : g.IsWalk nodes
  top : ∃ top, nodes.head? = some top ∧ g.IsTop top
  last : nodes.getLast? = some node

/-- **The whole way to a node is its chain**: no other leads to it. -/
lemma leadsTo_iff (hg : g.Linked) (horder : g.TopologicalOrder order) (hnode : node < g.size) :
    g.LeadsTo node nodes ↔ nodes = g.chain node := by
  have hgrounded : g.Grounded node := horder.grounded hg hnode
  constructor
  · rintro ⟨hwalk, ⟨top, hhead, htop⟩, hlast⟩
    obtain ⟨front, hfront⟩ := hwalk.suffix_chain hg horder hlast
    rcases List.eq_nil_or_concat front with rfl | ⟨before, parent, rfl⟩
    · exact hfront
    · -- a node in front of the top would be its parent
      have hedges := (isWalk_chain hg horder hgrounded).edges
      rw [← hfront, List.isChain_append] at hedges
      exact absurd (hedges.2.2 parent (by simp) top hhead) (hg.not_edge_of_isTop htop)
  · rintro rfl
    exact ⟨isWalk_chain hg horder hgrounded, exists_head?_chain hg horder hgrounded,
      getLast?_chain hg horder node⟩

/-- **From every node the way goes on to a leaf**, because no walk goes on for ever. -/
lemma exists_leaf (hg : g.Linked) (horder : g.TopologicalOrder order) (hnode : node < g.size) :
    ∃ leaf < g.size, g.childrenOf leaf = [] ∧ g.chain node <+: g.chain leaf := by
  -- the induction is on the number of nodes behind the node in the order
  induction hrank : g.size - order.idxOf node using Nat.strongRecOn generalizing node with
  | ind rank ih =>
    cases hchildren : g.childrenOf node with
    | nil => exact ⟨node, hnode, hchildren, List.prefix_rfl⟩
    | cons child rest =>
      have hedge : g.Edge node child := by
        rw [Edge, hchildren]
        exact List.mem_cons_self
      have hlt := horder.before hedge
      have hbound := horder.idxOf_lt_size (hg.child_lt hedge)
      obtain ⟨leaf, hleaf, hnone, hprefix⟩ :=
        ih (g.size - order.idxOf child) (by omega) (hg.child_lt hedge) rfl
      have hstep : g.chain node <+: g.chain child :=
        ⟨[child], (chain_of_parent hg horder (hg.edge_iff.1 hedge)).symm⟩
      exact ⟨leaf, hleaf, hnone, hstep.trans hprefix⟩

/-- The front of a way takes no longer than the way. -/
lemma time_front_le (h : front <+: nodes) : g.time front ≤ g.time nodes := by
  obtain ⟨back, rfl⟩ := h
  rw [time_append]
  exact Nat.le_add_right _ _

/-! ### Leaves near the longest -/

/-- The leaves whose ways take at least some time, each once: the longest way first,
and the lowest leaf first among equals. -/
structure NearLeaves (g : Graph) (least : Int) (leaves : List Nat) : Prop where
  mem_iff : ∀ leaf, leaf ∈ leaves ↔
    leaf < g.size ∧ g.childrenOf leaf = [] ∧ least ≤ g.time (g.chain leaf)
  ordered : leaves.Pairwise fun leaf next =>
    g.time (g.chain next) < g.time (g.chain leaf) ∨
      g.time (g.chain next) = g.time (g.chain leaf) ∧ leaf < next

lemma mem_leavesFrom_iff {least : Int} : node ∈ g.leavesFrom least ↔
    node < g.size ∧ g.childrenOf node = [] ∧ least ≤ g.time (g.chain node) := by
  simp [leavesFrom, Graph.nodes]

/-- The leaves in the stable order of their ways. -/
lemma nearLeaves_of_stablySorted {least : Int}
    (h : StablySorted (fun node => -(g.time (g.chain node) : Int)) (g.leavesFrom least) leaves) :
    g.NearLeaves least leaves := by
  refine ⟨fun leaf => h.perm.mem_iff.trans mem_leavesFrom_iff, ?_⟩
  have hascending : (g.leavesFrom least).Pairwise (· < ·) := List.pairwise_lt_range.filter _
  refine (h.pairwise hascending).imp fun hpair => ?_
  omega

/-- No leaf of the list has a way that takes longer than that to the first. -/
lemma NearLeaves.time_le_first {least : Int} {first leaf : Nat} {rest : List Nat}
    (h : g.NearLeaves least (first :: rest)) (hleaf : leaf ∈ first :: rest) :
    g.time (g.chain leaf) ≤ g.time (g.chain first) := by
  rcases List.mem_cons.1 hleaf with rfl | hrest
  · exact Nat.le_refl _
  · have hpair := List.rel_of_pairwise_cons h.ordered hrest
    omega

/-- **When less time is enough, the list goes on**: the leaves that were near before
come first. -/
lemma prefix_of_stablySorted {least less : Int} {more : List Nat} (hle : less ≤ least)
    (h : StablySorted (fun node => -(g.time (g.chain node) : Int)) (g.leavesFrom least) leaves)
    (hmore : StablySorted (fun node => -(g.time (g.chain node) : Int)) (g.leavesFrom less) more) :
    leaves <+: more := by
  have hpart : (g.leavesFrom less).filter (fun node => -(g.time (g.chain node) : Int) ≤ -least) =
      g.leavesFrom least := by
    rw [leavesFrom, leavesFrom, List.filter_filter]
    refine List.filter_congr fun node _ => ?_
    rw [Bool.eq_iff_iff]
    simp only [Bool.and_eq_true, decide_eq_true_eq]
    constructor
    · rintro ⟨hnear, hleaf, -⟩
      exact ⟨hleaf, by omega⟩
    · rintro ⟨hleaf, hnear⟩
      exact ⟨by omega, hleaf, by omega⟩
  have hsorted := hmore.filter fun node => -(g.time (g.chain node) : Int) ≤ -least
  rw [hpart] at hsorted
  rw [h.unique hsorted]
  exact isPrefix_filter_key hmore.ordered (-least)

/-- The near-critical paths, measured from a node whose chain takes longest. -/
lemma exists_near_of_longest (hg : g.Linked) (h : ¬ g.Cyclic) (hlast : last < g.size)
    (hbest : ∀ node < g.size, g.time (g.chain node) ≤ g.time (g.chain last)) (tolerance : Int) :
    ∃ leaves, StablySorted (fun node => -(g.time (g.chain node) : Int))
        (g.leavesFrom (g.time (g.chain last) - max tolerance 0)) leaves ∧
      g.nearCriticalPaths tolerance = .ok (leaves.map g.chainPath) := by
  obtain ⟨other, hother, hbest', leaves, hsorted, hpaths⟩ :=
    exists_nearCriticalPaths hg h (Nat.zero_lt_of_lt hlast) tolerance
  have hsame : g.time (g.chain other) = g.time (g.chain last) :=
    Nat.le_antisymm (hbest other hother) (hbest' last hlast)
  exact ⟨leaves, hsame ▸ hsorted, hpaths⟩

/-! ### Near-critical paths -/

/-- **The near-critical paths are the ways to the leaves that take long enough**: in
every acyclic graph with a node, and for every tolerance, there is one such path for
each leaf whose whole way takes no less than the longest walk, up to the tolerance. The
longest come first, and among equals those to the lowest leaves. There is always one,
the first takes as long as the critical path, and the critical path is the front of
one of them, though it may end before a leaf. A greater tolerance adds paths behind
the others. -/
theorem near_paths_reach_leaves {spans : List Span} (hne : spans ≠ []) (hone : OneTrace spans) :
    ∃ g, ofSpans spans = .ok g ∧ (¬ g.Cyclic →
      ∃ (critical : CriticalPath) (near : Int → List CriticalPath),
        g.criticalPath = .ok critical ∧
        (∀ tolerance, g.nearCriticalPaths tolerance = .ok (near tolerance)) ∧
        (∀ walk, g.IsWalk walk → g.time walk ≤ critical.total) ∧
        (∃ walk, g.IsWalk walk ∧ g.time walk = critical.total) ∧
        (∀ node < g.size, ∀ nodes, g.LeadsTo node nodes ↔ nodes = g.chain node) ∧
        (∀ tolerance, ∃ leaves, near tolerance = leaves.map g.chainPath ∧
          g.NearLeaves (critical.total - max tolerance 0) leaves) ∧
        (∀ tolerance, ∃ first rest,
          near tolerance = first :: rest ∧ first.total = critical.total) ∧
        (∀ tolerance, ∃ path ∈ near tolerance, critical.path <+: path.path) ∧
        ∀ tolerance greater, tolerance ≤ greater → near tolerance <+: near greater) := by
  have hg := linked_build spans
  refine ⟨build spans, ofSpans_of_oneTrace hone, fun hcycle => ?_⟩
  obtain ⟨order, hok, horder⟩ := exists_order?_eq_ok hg hcycle
  have hsize : 0 < (build spans).size := by
    exact size_build spans ▸ List.length_pos_iff.2 hne
  obtain ⟨last, hlast, hcritical, hlowest⟩ := exists_last hg horder hok hsize
  rw [pathTo_eq hg horder hlast] at hcritical
  have hbest : ∀ node < (build spans).size, (build spans).time ((build spans).chain node) ≤
      (build spans).time ((build spans).chain last) := by
    intro node hnode
    have := hlowest node hnode
    omega
  have hwalk : (build spans).IsWalk ((build spans).chain last) :=
    isWalk_chain hg horder (horder.grounded hg hlast)
  obtain ⟨leaf, hleaf, hnone, hprefix⟩ := exists_leaf hg horder hlast
  -- the critical path goes on to a leaf, and takes as long as the whole way there
  have hlongest : (build spans).time ((build spans).chain leaf) =
      (build spans).time ((build spans).chain last) :=
    Nat.le_antisymm (hbest leaf hleaf) (time_front_le hprefix)
  choose leaves hsorted hnear using exists_near_of_longest hg hcycle hlast hbest
  have hleaves := fun tolerance => nearLeaves_of_stablySorted (hsorted tolerance)
  have hmem : ∀ tolerance, leaf ∈ leaves tolerance := fun tolerance =>
    ((hleaves tolerance).mem_iff leaf).2 ⟨hleaf, hnone, by omega⟩
  refine ⟨(build spans).chainPath last, fun tolerance =>
    (leaves tolerance).map (build spans).chainPath, hcritical, hnear, ?_,
    ⟨_, hwalk, rfl⟩, fun node hnode nodes => leadsTo_iff hg horder hnode,
    fun tolerance => ⟨leaves tolerance, rfl, hleaves tolerance⟩, ?_, ?_, ?_⟩
  · intro walk h
    have hend := List.getLast?_eq_some_getLast h.ne_nil
    refine Int.ofNat_le.2 ((h.time_le hg horder hend).trans (hbest _ ?_))
    exact h.lt_size _ (List.mem_of_getLast? hend)
  · intro tolerance
    obtain ⟨first, rest, hfirst⟩ := List.exists_cons_of_ne_nil (List.ne_nil_of_mem (hmem tolerance))
    refine ⟨_, _, congrArg (List.map (build spans).chainPath) hfirst, congrArg Nat.cast ?_⟩
    have hlist := hleaves tolerance
    have hin := hmem tolerance
    rw [hfirst] at hlist hin
    have hlt : first < (build spans).size := ((hlist.mem_iff first).1 List.mem_cons_self).1
    exact Nat.le_antisymm (hbest first hlt) (hlongest ▸ hlist.time_le_first hin)
  · intro tolerance
    exact ⟨_, List.mem_map_of_mem (hmem tolerance), hprefix.map Int.ofNat⟩
  · intro tolerance greater hle
    refine (prefix_of_stablySorted ?_ (hsorted tolerance) (hsorted greater)).map _
    omega

/-- The ways to the leaves of the batch, whose times are equal. -/
lemma nearCriticalPaths_lateParent : (build lateParent).nearCriticalPaths (-4) = .ok
    [{ path := [2], total := 5, durations := [(2, 5)], names := ["orphan"] },
     { path := [1, 0, 3], total := 5, durations := [(1, 2), (0, 3), (3, 0)],
       names := ["parent", "child", "mark"] }] := by
  have hok : (build lateParent).order? = .ok [2, 1, 0, 3] := by cbv
  have hdistances : (build lateParent).distances [2, 1, 0, 3] = #[5, 2, 5, 5] := by cbv
  have hranking : (build lateParent).ranking #[5, 2, 5, 5] =
      [(0, 5), (1, 2), (2, 5), (3, 5)] := by
    cbv
  have hleader : Tally.leader? [((0 : Int), (5 : Int)), (1, 2), (2, 5), (3, 5)] = some (0, 5) :=
    rfl
  have hleaves : ((build lateParent).nodes.filter fun node =>
      ((build lateParent).childrenOf node).isEmpty) = [2, 3] := by
    cbv
  have hnear : ([2, 3].filter fun node =>
      decide ((5 : Int) - max (-4) 0 ≤ (#[5, 2, 5, 5].getD node 0 : Nat))) = [2, 3] := by
    decide
  rw [nearCriticalPaths, hok]
  simp only [bind, Except.bind, hdistances, hranking, hleader, hleaves, hnear]
  cbv

/-- Of two leaves whose ways take as long as the critical path, the first has a way of
its own, and the way to the second goes on from the critical path. -/
theorem late_parent_goes_on_to_mark :
    lateParent ≠ [] ∧ OneTrace lateParent ∧ ∃ g critical near, ofSpans lateParent = .ok g ∧
      ¬ g.Cyclic ∧ g.criticalPath = .ok critical ∧ critical.path = [1, 0] ∧
      g.nearCriticalPaths (-4) = .ok near ∧ near.map (·.path) = [[2], [1, 0, 3]] ∧
      near.map (·.total) = [5, 5] ∧
      ∃ path ∈ near, critical.path <+: path.path := by
  have hne : lateParent ≠ [] := by simp [lateParent]
  have hone : OneTrace lateParent := ⟨.ofNat 16 7, by simp [lateParent]⟩
  obtain ⟨g, hg, hnear⟩ := near_paths_reach_leaves hne hone
  obtain rfl : build lateParent = g := Except.ok.inj ((ofSpans_of_oneTrace hone).symm.trans hg)
  have hcycle : ¬ (build lateParent).Cyclic :=
    (isAcyclic_iff (linked_build lateParent)).1 (by cbv)
  obtain ⟨critical, near, hpath, hpaths, -, -, -, -, -, hfront, -⟩ := hnear hcycle
  obtain rfl := Except.ok.inj (criticalPath_lateParent.symm.trans hpath)
  have heq := Except.ok.inj (nearCriticalPaths_lateParent.symm.trans (hpaths (-4)))
  exact ⟨hne, hone, _, _, near (-4), hg, hcycle, hpath, rfl, hpaths (-4), by rw [← heq]; rfl,
    by rw [← heq]; rfl, hfront (-4)⟩

end Graph
end CausalTrace
