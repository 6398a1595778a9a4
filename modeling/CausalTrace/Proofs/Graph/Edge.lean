/-
The edges of a causal graph, and how the lists of it agree.

* `filterMap_zipIdx_eq_map`, `filterMap_zipIdx_of_eq`: what is picked from the numbered
  elements of a list is picked from the numbers, and under one number at most once;
* `Edge`: a node is listed among the children of another;
* `Linked`: what the lists of a graph hold is what the origins of its nodes say, and
  parents are nodes; `linked_build`: the graph of a batch is linked;
* `Linked.edge_iff`: an edge leads to a node from its parent, so that no
  node has two: `Linked.eq_of_edge`.
-/
import CausalTrace.Proofs.Graph.Build

namespace CausalTrace

/-! ### Numbered elements -/

section Numbered

variable {α β : Type} {xs : List α}

/-- What is picked from the numbered elements of a list is picked from the numbers. -/
lemma filterMap_zipIdx_eq_map {p : α → Bool} {f : α → Nat → β} {q : Nat → Bool} {f' : Nat → β}
    (h : ∀ i x, xs[i]? = some x → q i = p x ∧ f' i = f x i) :
    (xs.zipIdx.filterMap fun entry => if p entry.1 then some (f entry.1 entry.2) else none) =
      ((List.range xs.length).filter q).map f' := by
  induction xs using List.reverseRecOn with
  | nil => rfl
  | append_singleton xs x ih =>
    have hfront := ih fun i y hy =>
      h i y ((List.getElem?_append_left (List.getElem?_eq_some_iff.1 hy).1).trans hy)
    obtain ⟨hq, hf⟩ := h xs.length x List.getElem?_concat_length
    rw [List.zipIdx_append, List.filterMap_append, hfront, List.length_append,
      List.length_singleton, List.range_succ, List.filter_append, List.map_append]
    by_cases hx : p x <;> simp [hx, hq, hf]

/-- Under one number there is at most one element. -/
lemma filterMap_zipIdx_of_eq (f : α → Option β) (xs : List α) (i : Nat) :
    (xs.zipIdx.filterMap fun entry => if entry.2 = i then f entry.1 else none) =
      (xs[i]?.bind f).toList := by
  induction xs using List.reverseRecOn with
  | nil => rfl
  | append_singleton xs x ih =>
    rw [List.zipIdx_append, List.filterMap_append, ih]
    rcases Nat.lt_trichotomy i xs.length with hlt | rfl | hgt
    · simp [List.getElem?_append_left hlt, Nat.ne_of_gt hlt]
    · cases hx : f x <;> simp [hx]
    · simp [List.getElem?_append_right (Nat.le_of_lt hgt), Nat.ne_of_lt hgt, Nat.le_of_lt hgt,
        Nat.sub_ne_zero_of_lt hgt]

end Numbered

namespace Graph

variable {g : Graph} {spans : List Span} {node parent child : Nat}

/-! ### Children and parents -/

/-- A node is below another: it is listed among its children. -/
def Edge (g : Graph) (parent child : Nat) : Prop :=
  child ∈ g.childrenOf parent

/-- The origin of a node; what is no node hangs nowhere. -/
def origin (g : Graph) (node : Nat) : Origin :=
  (g.spans[node]?).elim .root (originOf g.lastNode)

/-- What the lists of a graph hold is what the origins of its nodes say, in the order of
the nodes, and each child hangs below a node. -/
structure Linked (g : Graph) : Prop where
  roots_eq : g.roots = g.nodes.filter fun node => g.origin node = .root
  orphans_eq : g.orphans = g.nodes.filter fun node => g.origin node = .orphan
  children_eq : ∀ parent : Nat, g.children parent =
    (g.nodes.filter fun child => g.origin child = .child parent).map fun child =>
      (child, g.duration child)
  parents_eq : ∀ node : Nat, g.parents node = (g.origin node).parent?.toList
  edgeCount_eq : g.edgeCount = g.nodes.countP fun node => (g.origin node).parent?.isSome
  origin_lt : ∀ {child parent}, g.origin child = .child parent → parent < g.size

/-- A node of a batch has the origin of its span. -/
lemma origin_build (h : spans[node]? = some span) :
    (build spans).origin node = originOf (index spans) span := by
  rw [origin, spans_build, lastNode_build, List.getElem?_toArray, h, Option.elim_some]

/-- The nodes whose origins pass a test, each with what is kept of it, as they are picked
from the numbered spans. -/
lemma filterMap_origin {β : Type} (spans : List Span) (test : Origin → Bool)
    {f : Span → Nat → β} {f' : Nat → β} (hf : ∀ i x, spans[i]? = some x → f' i = f x i) :
    (spans.zipIdx.filterMap fun entry =>
        if test (originOf (index spans) entry.1) then some (f entry.1 entry.2) else none) =
      ((build spans).nodes.filter fun node => test ((build spans).origin node)).map f' := by
  have htest : ∀ i x, spans[i]? = some x →
      test ((build spans).origin i) = test (originOf (index spans) x) ∧ f' i = f x i :=
    fun i x hx => ⟨by rw [origin_build hx], hf i x hx⟩
  rw [nodes, size_build]
  exact filterMap_zipIdx_eq_map (p := fun x => test (originOf (index spans) x)) htest

/-- The nodes whose origins pass a test, as they are picked from the numbered spans. -/
lemma filterMap_origin_nodes (spans : List Span) (test : Origin → Bool) :
    (spans.zipIdx.filterMap fun entry =>
        if test (originOf (index spans) entry.1) then some entry.2 else none) =
      (build spans).nodes.filter fun node => test ((build spans).origin node) := by
  have hpicked := filterMap_origin spans test (f := fun _ i => i) fun _ _ _ => rfl
  rwa [List.map_id'] at hpicked

/-- A span without a parent hangs nowhere. -/
lemma originOf_eq_root_iff {lastNode : Std.HashMap SpanId Nat} {span : Span} :
    originOf lastNode span = .root ↔ span.parentId = none := by
  rw [originOf]
  cases span.parentId with
  | none => simp
  | some id => cases hnode : lastNode[id]? <;> simp [hnode]

/-- The parent of a span in a batch is a node of the batch. -/
lemma lt_length_of_originOf_eq_child {span : Span}
    (h : originOf (index spans) span = .child parent) : parent < spans.length := by
  rw [originOf] at h
  cases hid : span.parentId with
  | none => simp [hid] at h
  | some id =>
    cases hnode : (index spans)[id]? with
    | none => simp [hid, hnode] at h
    | some node =>
      simp only [hid, hnode, Origin.child.injEq] at h
      exact h ▸ lt_length_of_index_eq_some hnode

/-- What is no node of a batch hangs nowhere. -/
lemma origin_build_of_length_le (h : spans.length ≤ node) :
    (build spans).origin node = .root := by
  rw [origin, spans_build, List.getElem?_toArray, List.getElem?_eq_none h, Option.elim_none]

/-- **The graph of a batch is linked**: its lists are filled in two passes, and each
node is hung exactly below its own parent. -/
lemma linked_build (spans : List Span) : (build spans).Linked where
  roots_eq := by
    have hroot : ∀ span : Span, span.isRoot = decide (originOf (index spans) span = .root) := by
      intro span
      rw [Bool.eq_iff_iff, decide_eq_true_eq, originOf_eq_root_iff, Span.isRoot]
      cases span.parentId <;> simp
    rw [roots, (hung_build spans).rootNodes_eq, (added_foldl spans).rootNodes_eq]
    simp only [hroot, filterMap_origin_nodes spans fun origin => decide (origin = .root)]
  orphans_eq := by
    rw [orphans, (hung_build spans).orphanNodes_eq, (added_foldl spans).lastNode_eq]
    simpa only [decide_eq_true_eq] using
      filterMap_origin_nodes spans fun origin => decide (origin = .orphan)
  children_eq parent := by
    have hduration : ∀ i x, spans[i]? = some x →
        (i, (build spans).duration i) = (i, x.duration) :=
      fun i x hx => by rw [duration_build hx]
    change ((build spans).childEdges.getD parent #[]).toList = _
    rw [Array.getD_eq_getD_getElem?, (hung_build spans).childEdges_eq,
      (added_foldl spans).childEdges_eq, (added_foldl spans).lastNode_eq, Array.size_replicate,
      ← filterMap_origin spans (fun origin => decide (origin = .child parent)) hduration]
    simp only [decide_eq_true_eq]
    split
    · rfl
    · rename_i hge
      refine (List.filterMap_eq_nil_iff.2 fun entry _ => if_neg fun horigin => ?_).symm
      exact hge (lt_length_of_originOf_eq_child horigin)
  parents_eq node := by
    change ((build spans).parentNodes.getD node #[]).toList = _
    rw [Array.getD_eq_getD_getElem?, (hung_build spans).parentNodes_eq,
      (added_foldl spans).parentNodes_eq, (added_foldl spans).lastNode_eq, Array.size_replicate,
      filterMap_zipIdx_of_eq fun span => (originOf (index spans) span).parent?]
    cases hspan : spans[node]? with
    | none =>
      have hge := List.getElem?_eq_none_iff.1 hspan
      rw [if_neg (Nat.not_lt.2 hge), origin_build_of_length_le hge]
      rfl
    | some span =>
      rw [if_pos (List.getElem?_eq_some_iff.1 hspan).1, origin_build hspan]
      rfl
  edgeCount_eq := by
    rw [(hung_build spans).edgeCount_eq, (added_foldl spans).lastNode_eq,
      filterMap_origin_nodes spans fun origin => origin.parent?.isSome,
      List.countP_eq_length_filter]
  origin_lt {child parent} h := by
    rw [size_build]
    cases hspan : spans[child]? with
    | none =>
      rw [origin_build_of_length_le (List.getElem?_eq_none_iff.1 hspan)] at h
      cases h
    | some span => exact lt_length_of_originOf_eq_child (origin_build hspan ▸ h)

section Linked

variable (hg : g.Linked)
include hg

/-- The parent of a node is that of its origin. -/
lemma Linked.parent?_eq (node : Nat) : g.parent? node = (g.origin node).parent? := by
  rw [parent?, hg.parents_eq, Option.head?_toList]

/-- A node has a parent exactly if its origin is that of a child. -/
lemma Linked.parent?_eq_some_iff :
    g.parent? node = some parent ↔ g.origin node = .child parent := by
  rw [hg.parent?_eq]
  cases g.origin node <;> simp [Origin.parent?]

/-- The parents of a node are listed as they are looked up. -/
lemma Linked.mem_parents_iff : parent ∈ g.parents node ↔ g.parent? node = some parent := by
  rw [hg.parents_eq, Option.mem_toList, hg.parent?_eq]

/-- Parents are nodes. -/
lemma Linked.parent_lt (h : g.parent? child = some parent) : parent < g.size :=
  hg.origin_lt (hg.parent?_eq_some_iff.1 h)

/-- Only nodes have parents. -/
lemma Linked.lt_size_of_parent? (h : g.parent? node = some parent) : node < g.size := by
  rw [hg.parent?_eq_some_iff, origin] at h
  by_contra hge
  rw [Array.getElem?_eq_none (Nat.le_of_not_lt hge)] at h
  cases h

/-- The children of a node are the nodes that have it for a parent. -/
lemma Linked.childrenOf_eq (parent : Nat) :
    g.childrenOf parent = g.nodes.filter fun child => g.parent? child = some parent := by
  change (g.children parent).map (·.1) = _
  rw [hg.children_eq, List.map_map]
  refine (List.map_id _).trans (List.filter_congr fun child _ => decide_eq_decide.2 ?_)
  exact hg.parent?_eq_some_iff.symm

end Linked

/-! ### Tops -/

/-- A root or an orphan: a node without a parent in the graph. -/
def IsTop (g : Graph) (node : Nat) : Prop :=
  node ∈ g.roots ∨ node ∈ g.orphans

/-- The tops of a graph are its nodes without a parent. -/
lemma Linked.isTop_iff (hg : g.Linked) :
    g.IsTop node ↔ node < g.size ∧ g.parent? node = none := by
  simp only [IsTop, hg.roots_eq, hg.orphans_eq, List.mem_filter, nodes, List.mem_range,
    decide_eq_true_eq, hg.parent?_eq]
  cases g.origin node <;> simp [Origin.parent?]

/-- An edge leads to a node from its parent. -/
lemma Linked.edge_iff (hg : g.Linked) :
    g.Edge parent child ↔ g.parent? child = some parent := by
  rw [Edge, hg.childrenOf_eq, List.mem_filter, decide_eq_true_eq, nodes, List.mem_range]
  exact ⟨fun h => h.2, fun h => ⟨hg.lt_size_of_parent? h, h⟩⟩

/-- No node has two parents. -/
lemma Linked.eq_of_edge (hg : g.Linked) {other : Nat} (h : g.Edge parent child)
    (h' : g.Edge other child) : parent = other :=
  Option.some.inj ((hg.edge_iff.1 h).symm.trans (hg.edge_iff.1 h'))

/-- Edges lead to nodes. -/
lemma Linked.child_lt (hg : g.Linked) (h : g.Edge parent child) :
    child < g.size :=
  hg.lt_size_of_parent? (hg.edge_iff.1 h)

/-- No edge leads to a top. -/
lemma Linked.not_edge_of_isTop (hg : g.Linked) (h : g.IsTop node) :
    ¬ g.Edge parent node := by
  rw [hg.edge_iff, (hg.isTop_iff.1 h).2]
  simp

end Graph
end CausalTrace
