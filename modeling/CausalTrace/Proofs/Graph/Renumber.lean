/-
Graphs with their nodes renumbered.

* `Renumbered`: a graph is another one with its nodes renumbered: they have the
  same origins, durations and names under their new numbers;
* `Renumbered.lt_size`, `Renumbered.inj`, `Renumbered.exists_eq`: every node has
  one new number, and every new number belongs to one node;
* `Renumbered.length_filter_nodes`: as many nodes pass a test; so the counts of edges, roots
  and orphans are the same;
* `Renumbered.edge_iff`, `Renumbered.cyclic_iff`: **edges lead between the same
  nodes**, and so one graph has a cycle if the other has.
-/
import CausalTrace.Proofs.Graph.Cycle

namespace CausalTrace

/-- An origin with the nodes renumbered. -/
def Origin.renumber (number : Nat → Nat) : Origin → Origin
  | .child parent => .child (number parent)
  | origin => origin

namespace Graph

variable {g g' : Graph} {number : Nat → Nat} {node other parent child : Nat}

/-- The second graph is the first with its nodes renumbered. Of the spans it keeps
durations and names; a parent is known under its new number. -/
structure Renumbered (number : Nat → Nat) (g g' : Graph) : Prop where
  nodes_perm : (g.nodes.map number).Perm g'.nodes
  origin_eq : ∀ node < g.size, g'.origin (number node) = (g.origin node).renumber number
  duration_eq : ∀ node < g.size, g'.duration (number node) = g.duration node
  name_eq : ∀ node < g.size, g'.name (number node) = g.name node

namespace Renumbered

/-! ### Nodes -/

/-- There are as many nodes. -/
lemma size_eq (h : Renumbered number g g') : g'.size = g.size := by
  have hlength := h.nodes_perm.length_eq
  rw [List.length_map, nodes, nodes, List.length_range, List.length_range] at hlength
  exact hlength.symm

/-- The new number of a node is a node. -/
lemma lt_size (h : Renumbered number g g') (hnode : node < g.size) : number node < g'.size :=
  List.mem_range.1 (h.nodes_perm.subset (List.mem_map_of_mem (List.mem_range.2 hnode)))

/-- No two nodes have the same new number. -/
lemma inj (h : Renumbered number g g') (hnode : node < g.size) (hother : other < g.size)
    (heq : number node = number other) : node = other := by
  have hnodup : (g.nodes.map number).Nodup := h.nodes_perm.nodup_iff.2 List.nodup_range
  exact List.inj_on_of_nodup_map hnodup (List.mem_range.2 hnode) (List.mem_range.2 hother) heq

/-- Every new number belongs to a node. -/
lemma exists_eq (h : Renumbered number g g') (hother : other < g'.size) :
    ∃ node < g.size, number node = other := by
  obtain ⟨node, hnode, heq⟩ :=
    List.mem_map.1 (h.nodes_perm.symm.subset (List.mem_range.2 hother))
  exact ⟨node, List.mem_range.1 hnode, heq⟩

/-! ### Counts -/

/-- The nodes that pass a test are the same if the test gives the same answers. -/
lemma filter_nodes_perm (h : Renumbered number g g') {test test' : Nat → Bool}
    (htest : ∀ node < g.size, test' (number node) = test node) :
    ((g.nodes.filter test).map number).Perm (g'.nodes.filter test') := by
  refine List.Perm.trans ?_ (h.nodes_perm.filter test')
  rw [List.filter_map]
  refine List.Perm.map number (List.Perm.of_eq (List.filter_congr fun node hnode => ?_))
  exact (htest node (List.mem_range.1 hnode)).symm

/-- As many nodes pass a test if the test gives the same answers. -/
lemma length_filter_nodes (h : Renumbered number g g') {test test' : Nat → Bool}
    (htest : ∀ node < g.size, test' (number node) = test node) :
    (g'.nodes.filter test').length = (g.nodes.filter test).length := by
  rw [← (h.filter_nodes_perm htest).length_eq, List.length_map]

section Counts

variable (h : Renumbered number g g') (hg : g.Linked) (hg' : g'.Linked)
include h hg hg'

/-- There are as many roots. -/
lemma length_roots : g'.roots.length = g.roots.length := by
  rw [hg.roots_eq, hg'.roots_eq]
  refine h.length_filter_nodes fun node hnode => decide_eq_decide.2 ?_
  rw [h.origin_eq node hnode]
  cases g.origin node <;> simp [Origin.renumber]

/-- There are as many orphans. -/
lemma length_orphans : g'.orphans.length = g.orphans.length := by
  rw [hg.orphans_eq, hg'.orphans_eq]
  refine h.length_filter_nodes fun node hnode => decide_eq_decide.2 ?_
  rw [h.origin_eq node hnode]
  cases g.origin node <;> simp [Origin.renumber]

/-- The parent of a node is known under its new number. -/
lemma parent?_eq (hnode : node < g.size) :
    g'.parent? (number node) = (g.parent? node).map number := by
  rw [hg.parent?_eq, hg'.parent?_eq, h.origin_eq node hnode]
  cases g.origin node <;> rfl

/-- There are as many edges. -/
lemma edgeCount_eq : g'.edgeCount = g.edgeCount := by
  rw [hg.edgeCount_eq, hg'.edgeCount_eq, List.countP_eq_length_filter,
    List.countP_eq_length_filter]
  refine h.length_filter_nodes fun node hnode => ?_
  rw [← hg.parent?_eq, ← hg'.parent?_eq, h.parent?_eq hg hg' hnode, Option.isSome_map]

end Counts

/-! ### Edges -/

/-- What leads to a renumbered node is the new number of a node that leads to
it. -/
lemma edge_iff (h : Renumbered number g g') (hg : g.Linked) (hg' : g'.Linked)
    (hchild : child < g.size) :
    g'.Edge other (number child) ↔
      ∃ parent < g.size, g.Edge parent child ∧ number parent = other := by
  simp only [hg.edge_iff, hg'.edge_iff, h.parent?_eq hg hg' hchild, Option.map_eq_some_iff]
  refine exists_congr fun parent => ?_
  exact ⟨fun hparent => ⟨hg.parent_lt hparent.1, hparent⟩, fun hparent => hparent.2⟩

/-- A way along edges to a renumbered node is one to the node. -/
lemma exists_transGen (h : Renumbered number g g') (hg : g.Linked) (hg' : g'.Linked)
    {last : Nat} (hway : Relation.TransGen g'.Edge other last) (hnode : node < g.size)
    (heq : number node = last) :
    ∃ start < g.size, Relation.TransGen g.Edge start node ∧ number start = other := by
  induction hway generalizing node with
  | single hedge =>
    obtain ⟨start, hlt, hstart, hother⟩ := (h.edge_iff hg hg' hnode).1 (heq ▸ hedge)
    exact ⟨start, hlt, .single hstart, hother⟩
  | tail _ hedge ih =>
    obtain ⟨parent, hlt, hparent, hmiddle⟩ := (h.edge_iff hg hg' hnode).1 (heq ▸ hedge)
    obtain ⟨start, hlt, hstart, hother⟩ := ih hlt hmiddle
    exact ⟨start, hlt, hstart.tail hparent, hother⟩

/-- **One graph has a cycle if the other has.** -/
lemma cyclic_iff (h : Renumbered number g g') (hg : g.Linked) (hg' : g'.Linked) :
    g'.Cyclic ↔ g.Cyclic := by
  constructor
  · rintro ⟨other, hcycle⟩
    obtain ⟨_, -, hlast⟩ := Relation.TransGen.tail'_iff.1 hcycle
    obtain ⟨node, hnode, rfl⟩ := h.exists_eq (hg'.child_lt hlast)
    obtain ⟨start, hstart, hway, heq⟩ := h.exists_transGen hg hg' hcycle hnode rfl
    exact ⟨node, h.inj hstart hnode heq ▸ hway⟩
  · rintro ⟨node, hcycle⟩
    refine ⟨number node, hcycle.lift number fun parent child hedge => ?_⟩
    exact (h.edge_iff hg hg' (hg.child_lt hedge)).2
      ⟨parent, hg.parent_lt (hg.edge_iff.1 hedge), hedge, rfl⟩

/-- A renumbered node has children exactly if the node has. -/
lemma isEmpty_childrenOf (h : Renumbered number g g') (hg : g.Linked) (hg' : g'.Linked)
    (hnode : node < g.size) :
    (g'.childrenOf (number node)).isEmpty = (g.childrenOf node).isEmpty := by
  rw [Bool.eq_iff_iff, List.isEmpty_iff, List.isEmpty_iff, List.eq_nil_iff_forall_not_mem,
    List.eq_nil_iff_forall_not_mem]
  constructor
  · intro hnone child hchild
    exact hnone (number child)
      ((h.edge_iff hg hg' (hg.child_lt hchild)).2 ⟨node, hnode, hchild, rfl⟩)
  · intro hnone other hother
    obtain ⟨child, hchild, rfl⟩ := h.exists_eq (hg'.child_lt hother)
    obtain ⟨parent, hparent, hedge, heq⟩ := (h.edge_iff hg hg' hchild).1 hother
    exact hnone child (h.inj hparent hnode heq ▸ hedge)

end Renumbered
end Graph
end CausalTrace
