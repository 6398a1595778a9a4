/-
The chains of an acyclic causal graph.

* `IsWalk`: a directed path along the edges; `time`: its durations, added
  up;
* `chain_of_parent`, `chain_of_isTop`: the chain to a node is that to its
  parent and the node itself, and it starts at a root or an orphan;
* `isWalk_chain`, `IsWalk.nodup`: chains are walks, and no walk meets a
  node twice;
* `IsWalk.suffix_chain`: **every walk to a node is the end of its chain**,
  because no node has two parents; so none takes longer;
* `TopologicalOrder.induction`: an order, worked off node by node, parents
  first; `getD_distances`: so the distance of a node is the time along its
  chain.
-/
import CausalTrace.Proofs.Graph.Cycle
import Mathlib.Algebra.GroupWithZero.Nat
import Mathlib.Data.List.Chain

namespace CausalTrace
namespace Graph

variable {g : Graph} {order nodes : List Nat} {node parent : Nat}

/-! ### Walks -/

/-- A directed path: one node or more, with an edge between every two
neighbours. -/
structure IsWalk (g : Graph) (nodes : List Nat) : Prop where
  ne_nil : nodes ≠ []
  lt_size : ∀ node ∈ nodes, node < g.size
  edges : nodes.IsChain g.Edge

/-- The durations of some nodes, added up. -/
def time (g : Graph) (nodes : List Nat) : Nat :=
  (nodes.map g.duration).sum

@[simp] lemma time_append (g : Graph) (front back : List Nat) :
    g.time (front ++ back) = g.time front + g.time back := by
  simp [time]

/-- A node is a walk. -/
lemma isWalk_singleton (h : node < g.size) : g.IsWalk [node] :=
  ⟨by simp, by simpa using h, List.isChain_singleton node⟩

/-- A walk goes on along every edge from its last node. -/
lemma IsWalk.append_singleton (h : g.IsWalk nodes) (hlast : nodes.getLast? = some parent)
    (hedge : g.Edge parent node) (hnode : node < g.size) : g.IsWalk (nodes ++ [node]) := by
  refine ⟨by simp, ?_, ?_⟩
  · intro other hother
    rcases List.mem_append.1 hother with hother | hother
    · exact h.lt_size other hother
    · exact List.mem_singleton.1 hother ▸ hnode
  · refine h.edges.append (List.isChain_singleton node) ?_
    intro last hmem first hfirst
    rw [hlast, Option.mem_some] at hmem
    rw [List.head?_cons, Option.mem_some] at hfirst
    exact hmem ▸ hfirst ▸ hedge

/-- A walk is a node, or goes on along an edge from the end of a walk. -/
lemma IsWalk.of_append_singleton (h : g.IsWalk (nodes ++ [node])) :
    nodes = [] ∨ ∃ parent, g.IsWalk nodes ∧ nodes.getLast? = some parent ∧ g.Edge parent node := by
  rcases List.eq_nil_or_concat nodes with hnil | ⟨front, parent, rfl⟩
  · exact Or.inl hnil
  · obtain ⟨hedges, -, hlink⟩ := List.isChain_append.1 h.edges
    refine Or.inr ⟨parent, ⟨by simp, ?_, hedges⟩, by simp, ?_⟩
    · intro other hother
      exact h.lt_size other (List.mem_append_left _ hother)
    · exact hlink parent (by simp) node (by simp)

/-- No walk of an acyclic graph meets a node twice: it follows the
order. -/
lemma IsWalk.nodup (horder : g.TopologicalOrder order) (h : g.IsWalk nodes) : nodes.Nodup := by
  have hrank : nodes.IsChain fun a b => order.idxOf a < order.idxOf b :=
    h.edges.imp fun _ _ hedge => horder.before hedge
  exact (List.isChain_iff_pairwise.1 hrank).imp fun hlt heq =>
    Nat.ne_of_lt hlt (congrArg order.idxOf heq)

/-! ### Chains -/

/-- An order is as long as there are nodes. -/
lemma TopologicalOrder.idxOf_lt_size (horder : g.TopologicalOrder order) (h : node < g.size) :
    order.idxOf node < g.size := by
  have hmem : node ∈ order := horder.perm.mem_iff.2 (List.mem_range.2 h)
  have hlength : order.length = g.size := by rw [horder.perm.length_eq, nodes, List.length_range]
  exact hlength ▸ List.idxOf_lt_length_iff.2 hmem

/-- The nodes behind a chain come after it. -/
lemma chainBefore_eq (g : Graph) (steps node : Nat) (behind : List Nat) :
    g.chainBefore steps node behind = g.chainBefore steps node [] ++ behind := by
  induction steps generalizing node behind with
  | zero => rfl
  | succ steps ih =>
    rw [chainBefore, chainBefore]
    cases g.parent? node with
    | none => rfl
    | some parent =>
      simp only
      rw [ih, ih parent [node], List.append_assoc, List.singleton_append]

/-- A chain ends at a node without a parent. -/
lemma chainBefore_of_none (h : g.parent? node = none) (steps : Nat) (behind : List Nat) :
    g.chainBefore steps node behind = node :: behind := by
  cases steps with
  | zero => rfl
  | succ steps => rw [chainBefore, h]

/-- As many steps as there are nodes before a node lead to the top of its
chain, and more steps change nothing. -/
lemma chainBefore_add (hg : g.Linked) (horder : g.TopologicalOrder order) {steps : Nat}
    (h : order.idxOf node ≤ steps) (more : Nat) :
    g.chainBefore (steps + more) node [] = g.chainBefore steps node [] := by
  induction steps generalizing node with
  | zero =>
    have hnone : g.parent? node = none := by
      rw [Option.eq_none_iff_forall_ne_some]
      intro parent hparent
      have hlt := horder.before (hg.edge_iff.2 hparent)
      omega
    rw [chainBefore_of_none hnone, chainBefore_of_none hnone]
  | succ steps ih =>
    cases hparent : g.parent? node with
    | none => rw [chainBefore_of_none hparent, chainBefore_of_none hparent]
    | some parent =>
      have hlt := horder.before (hg.edge_iff.2 hparent)
      rw [Nat.add_right_comm, chainBefore, chainBefore, hparent]
      simp only
      rw [chainBefore_eq, ih (by omega), ← chainBefore_eq]

/-- The chain to a root or an orphan is the node itself. -/
lemma chain_of_isTop (hg : g.Linked) (h : g.IsTop node) : g.chain node = [node] :=
  chainBefore_of_none (hg.isTop_iff.1 h).2 _ _

/-- The chain to a node is that to its parent and the node itself. -/
lemma chain_of_parent (hg : g.Linked) (horder : g.TopologicalOrder order)
    (h : g.parent? node = some parent) : g.chain node = g.chain parent ++ [node] := by
  have hrank := horder.before (hg.edge_iff.2 h)
  have hsize := horder.idxOf_lt_size (hg.lt_size_of_parent? h)
  obtain ⟨steps, hsteps⟩ : ∃ steps, g.size = steps + 1 := ⟨g.size - 1, by omega⟩
  have hparent : g.chainBefore (steps + 1) parent [] = g.chainBefore steps parent [] :=
    chainBefore_add hg horder (by omega) 1
  calc g.chain node = g.chainBefore (steps + 1) node [] := by rw [chain, hsteps]
    _ = g.chainBefore steps parent [node] := by rw [chainBefore, h]
    _ = g.chainBefore steps parent [] ++ [node] := g.chainBefore_eq steps parent [node]
    _ = g.chain parent ++ [node] := by rw [← hparent, chain, hsteps]

/-- The chain to a node ends there. -/
lemma getLast?_chain (hg : g.Linked) (horder : g.TopologicalOrder order) (node : Nat) :
    (g.chain node).getLast? = some node := by
  cases hparent : g.parent? node with
  | none => rw [chain, chainBefore_of_none hparent, List.getLast?_singleton]
  | some parent => rw [chain_of_parent hg horder hparent, List.getLast?_concat]

/-- The chain to a node is a walk. -/
lemma isWalk_chain (hg : g.Linked) (horder : g.TopologicalOrder order) (h : g.Grounded node) :
    g.IsWalk (g.chain node) := by
  induction h with
  | ofTop htop =>
    rw [chain_of_isTop hg htop]
    exact isWalk_singleton (hg.isTop_iff.1 htop).1
  | @ofParent node parent hparent _ ih =>
    have hparent := hg.mem_parents_iff.1 hparent
    rw [chain_of_parent hg horder hparent]
    exact ih.append_singleton (getLast?_chain hg horder parent) (hg.edge_iff.2 hparent)
      (hg.lt_size_of_parent? hparent)

/-- The chain to a node starts at a root or an orphan. -/
lemma exists_head?_chain (hg : g.Linked) (horder : g.TopologicalOrder order)
    (h : g.Grounded node) : ∃ top, (g.chain node).head? = some top ∧ g.IsTop top := by
  induction h with
  | @ofTop node htop => exact ⟨node, by rw [chain_of_isTop hg htop, List.head?_cons], htop⟩
  | ofParent hparent _ ih =>
    obtain ⟨top, hhead, htop⟩ := ih
    refine ⟨top, ?_, htop⟩
    rw [chain_of_parent hg horder (hg.mem_parents_iff.1 hparent), List.head?_append, hhead,
      Option.some_or]

/-- **Every walk to a node is the end of its chain**: each step back can
only lead to the one parent. -/
lemma IsWalk.suffix_chain (hg : g.Linked) (horder : g.TopologicalOrder order)
    (h : g.IsWalk nodes) (hlast : nodes.getLast? = some node) : nodes <:+ g.chain node := by
  induction nodes using List.reverseRecOn generalizing node with
  | nil => simp at hlast
  | append_singleton front last ih =>
    obtain rfl : last = node := by simpa using hlast
    rcases h.of_append_singleton with rfl | ⟨parent, hfront, hparent, hedge⟩
    · obtain ⟨start, hstart⟩ := List.getLast?_eq_some_iff.1 (getLast?_chain hg horder last)
      exact ⟨start, hstart.symm⟩
    · obtain ⟨start, hstart⟩ := ih hfront hparent
      refine ⟨start, ?_⟩
      rw [chain_of_parent hg horder (hg.edge_iff.1 hedge), ← hstart, List.append_assoc]

/-- No walk to a node takes longer than its chain. -/
lemma IsWalk.time_le (hg : g.Linked) (horder : g.TopologicalOrder order) (h : g.IsWalk nodes)
    (hlast : nodes.getLast? = some node) : g.time nodes ≤ g.time (g.chain node) := by
  obtain ⟨front, hfront⟩ := h.suffix_chain hg horder hlast
  rw [← hfront, time_append]
  exact Nat.le_add_left _ _

/-! ### Distances -/

/-- The time along the chain to a node is filled in for some nodes. -/
structure Measured (g : Graph) (done : List Nat) (times : Array Nat) : Prop where
  size_eq : times.size = g.size
  getD_eq : ∀ node ∈ done, times.getD node 0 = g.time (g.chain node)

/-- A node is measured when its parent is: its own duration is added. -/
lemma measure_eq (hg : g.Linked) (horder : g.TopologicalOrder order) {done : List Nat}
    {times : Array Nat} (h : g.Measured done times)
    (hparent : ∀ parent, g.Edge parent node → parent ∈ done) :
    g.measure times node = times.setIfInBounds node (g.time (g.chain node)) := by
  rw [measure]
  cases hnode : g.parent? node with
  | none => simp [chain, chainBefore_of_none hnode, time]
  | some parent =>
    rw [chain_of_parent hg horder hnode, time_append,
      ← h.getD_eq parent (hparent parent (hg.edge_iff.2 hnode))]
    simp [time]

/-- A node that comes after its parent is measured. -/
lemma Measured.measure (hg : g.Linked) (horder : g.TopologicalOrder order) {done : List Nat}
    {times : Array Nat} (h : g.Measured done times) (hnode : node < g.size)
    (hparent : ∀ parent, g.Edge parent node → parent ∈ done) :
    g.Measured (done ++ [node]) (g.measure times node) := by
  rw [measure_eq hg horder h hparent]
  refine ⟨by rw [Array.size_setIfInBounds, h.size_eq], ?_⟩
  intro other hother
  rw [Array.getD_eq_getD_getElem?, Array.getElem?_setIfInBounds]
  by_cases heq : node = other
  · subst heq
    rw [if_pos rfl, if_pos (h.size_eq ▸ hnode), Option.getD_some]
  · have hdone : other ∈ done := by
      simpa [Ne.symm heq] using hother
    rw [if_neg heq, ← Array.getD_eq_getD_getElem?, h.getD_eq other hdone]

/-- What comes before a node in an order comes in front of it. -/
lemma TopologicalOrder.mem_front {front back : List Nat}
    (horder : g.TopologicalOrder (front ++ node :: back)) (hedge : g.Edge parent node) :
    parent ∈ front := by
  have hlt := horder.before hedge
  by_contra hparent
  have hbeyond : front.length ≤ (front ++ node :: back).idxOf parent := by
    rw [List.idxOf_append_of_notMem hparent]
    exact Nat.le_add_right _ _
  have hnode : (front ++ node :: back).idxOf node ≤ front.length := by
    by_cases hmem : node ∈ front
    · rw [List.idxOf_append_of_mem hmem]
      exact Nat.le_of_lt (List.idxOf_lt_length_iff.2 hmem)
    · rw [List.idxOf_append_of_notMem hmem, List.idxOf_cons_self]
      exact Nat.le_refl _
  omega

/-- What each node passes on when it comes after its parent holds of the whole
order. -/
lemma TopologicalOrder.induction {motive : List Nat → Prop} (horder : g.TopologicalOrder order)
    (hnil : motive [])
    (hstep : ∀ front node, motive front → node < g.size →
      (∀ parent, g.Edge parent node → parent ∈ front) → motive (front ++ [node])) :
    motive order := by
  have hfronts : ∀ back front, order = front ++ back → motive front → motive order := by
    intro back
    induction back with
    | nil =>
      intro front hsplit h
      rwa [hsplit, List.append_nil]
    | cons node back ih =>
      intro front hsplit h
      have hnode : node < g.size := List.mem_range.1 (horder.perm.mem_iff.1 (by simp [hsplit]))
      refine ih (front ++ [node]) (by simp [hsplit]) (hstep front node h hnode ?_)
      subst hsplit
      exact fun parent hedge => horder.mem_front hedge
  exact hfronts order [] rfl hnil

/-- **The distance of a node is the time along its chain.** -/
lemma getD_distances (hg : g.Linked) (horder : g.TopologicalOrder order) (h : node < g.size) :
    (g.distances order).getD node 0 = g.time (g.chain node) := by
  have hall : g.Measured order (g.distances order) := by
    -- the fronts of the order are measured one after the other
    refine horder.induction (motive := fun front => g.Measured front (g.distances front))
      ⟨by simp [distances], by simp⟩ fun front node hfront hnode hparent => ?_
    rw [distances, List.foldl_append]
    exact hfront.measure hg horder hnode hparent
  exact hall.getD_eq node (horder.perm.mem_iff.2 (List.mem_range.2 h))

end Graph
end CausalTrace
