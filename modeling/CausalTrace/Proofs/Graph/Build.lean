/-
How the graph of a batch is filled in.

* `index_eq_some_iff`: an identifier leads to the last node that carries it;
* `Added`: some spans are taken up, without any edges; `added_foldl`: so they are
  when the first pass is over;
* `Hung`: the nodes of some spans are hung, each below its parent; `Hung.step`: one
  more node is; `hung_build`: **all nodes of a batch are**, when the second pass is
  over.
-/
import CausalTrace.Graph.Basic
import Mathlib.Data.List.Induction

namespace CausalTrace

/-- The parent below which a node hangs. -/
def Origin.parent? : Origin → Option Nat
  | .child parent => some parent
  | _ => none

namespace Graph

variable {spans : List Span} {span : Span} {start g : Graph} {entries : List (Span × Nat)}
  {entry : Span × Nat} {size : Nat}

/-! ### Identifiers -/

/-- The last node that carries each span identifier. -/
def index (spans : List Span) : Std.HashMap SpanId Nat :=
  spans.zipIdx.foldl (fun nodes entry => nodes.insert entry.1.spanId entry.2) ∅

/-- The nodes of a batch are indexed one after the other. -/
lemma index_append_singleton (spans : List Span) (span : Span) :
    index (spans ++ [span]) = (index spans).insert span.spanId spans.length := by
  simp [index, List.zipIdx_append]

/-- An identifier leads to the last node that carries it. -/
lemma index_eq_some_iff {spans : List Span} {id : SpanId} {node : Nat} :
    (index spans)[id]? = some node ↔
      (spans.map (·.spanId))[node]? = some id ∧
        ∀ later, node < later → (spans.map (·.spanId))[later]? ≠ some id := by
  induction spans using List.reverseRecOn with
  | nil => simp [index]
  | append_singleton spans span ih =>
    rw [index_append_singleton, Std.HashMap.getElem?_insert, List.map_append, List.map_singleton]
    have hlength : (spans.map (·.spanId)).length = spans.length := List.length_map ..
    -- either the last span carries the identifier, or no answer changes
    by_cases hid : span.spanId = id
    · have hlast : (spans.map (·.spanId) ++ [span.spanId])[spans.length]? = some id := by
        rw [← hlength, List.getElem?_concat_length, hid]
      have hbeyond : ∀ later, spans.length < later →
          (spans.map (·.spanId) ++ [span.spanId])[later]? ≠ some id := by
        intro later hlater
        rw [List.getElem?_eq_none (by simp; omega)]
        simp
      simp only [hid, beq_self_eq_true, if_true, Option.some.injEq]
      rw [hid] at hlast hbeyond
      constructor
      · rintro rfl
        exact ⟨hlast, hbeyond⟩
      · rintro ⟨hnode, hnone⟩
        by_contra hne
        rcases Nat.lt_or_gt_of_ne hne with hlt | hgt
        · exact hbeyond node hlt hnode
        · exact hnone _ hgt hlast
    · have hsame : ∀ i : Nat, (spans.map (·.spanId) ++ [span.spanId])[i]? = some id ↔
          (spans.map (·.spanId))[i]? = some id := by
        intro i
        rw [List.getElem?_append]
        split
        · rfl
        · rename_i hi
          rw [List.getElem?_eq_none (Nat.le_of_not_lt hi)]
          simp [List.getElem?_singleton, hid]
      simp only [beq_iff_eq, hid, if_false, ih, ne_eq, hsame]

/-- An identifier leads to a node of the batch. -/
lemma lt_length_of_index_eq_some {spans : List Span} {id : SpanId} {node : Nat}
    (h : (index spans)[id]? = some node) : node < spans.length := by
  obtain ⟨hnode, -⟩ := index_eq_some_iff.1 h
  obtain ⟨hlt, -⟩ := List.getElem?_eq_some_iff.1 hnode
  simpa using hlt

/-! ### The first pass -/

/-- Some spans are taken up, without any edges. -/
structure Added (spans : List Span) (g : Graph) : Prop where
  spans_eq : g.spans = spans.toArray
  lastNode_eq : g.lastNode = index spans
  rootNodes_eq : g.rootNodes.toList =
    spans.zipIdx.filterMap fun entry => if entry.1.isRoot then some entry.2 else none
  orphanNodes_eq : g.orphanNodes = #[]
  childEdges_eq : g.childEdges = Array.replicate spans.length #[]
  parentNodes_eq : g.parentNodes = Array.replicate spans.length #[]
  edgeCount_eq : g.edgeCount = 0

/-- One more span is taken up. -/
lemma Added.step (h : Added spans g) (span : Span) : Added (spans ++ [span]) (g.add span) where
  spans_eq := by simp [add, h.spans_eq]
  lastNode_eq := by simp [add, h.spans_eq, h.lastNode_eq, index_append_singleton]
  rootNodes_eq := by
    rw [add, List.zipIdx_append, List.filterMap_append, ← h.rootNodes_eq, h.spans_eq]
    by_cases hroot : span.isRoot <;> simp [hroot]
  orphanNodes_eq := h.orphanNodes_eq
  childEdges_eq := by
    rw [add, h.childEdges_eq, List.length_append, List.length_singleton, Array.replicate_succ]
  parentNodes_eq := by
    rw [add, h.parentNodes_eq, List.length_append, List.length_singleton, Array.replicate_succ]
  edgeCount_eq := h.edgeCount_eq

/-- **All spans are taken up** when the first pass is over. -/
lemma added_foldl (spans : List Span) : Added spans (spans.foldl add {}) := by
  induction spans using List.reverseRecOn with
  | nil => exact ⟨rfl, rfl, rfl, rfl, rfl, rfl, rfl⟩
  | append_singleton spans span ih =>
    rw [List.foldl_append]
    exact ih.step span

/-! ### The second pass -/

/-- The nodes of some entries are hung, on a graph that had no edges: orphans, the
children and the parents of each node come in the order of the entries. -/
structure Hung (start : Graph) (entries : List (Span × Nat)) (g : Graph) : Prop where
  spans_eq : g.spans = start.spans
  lastNode_eq : g.lastNode = start.lastNode
  rootNodes_eq : g.rootNodes = start.rootNodes
  orphanNodes_eq : g.orphanNodes.toList = entries.filterMap fun entry =>
    if originOf start.lastNode entry.1 = .orphan then some entry.2 else none
  childEdges_eq : ∀ parent, g.childEdges[parent]? =
    if parent < start.childEdges.size then
      some (entries.filterMap fun entry =>
        if originOf start.lastNode entry.1 = .child parent then some (entry.2, entry.1.duration)
        else none).toArray
    else none
  parentNodes_eq : ∀ child, g.parentNodes[child]? =
    if child < start.parentNodes.size then
      some (entries.filterMap fun entry =>
        if entry.2 = child then (originOf start.lastNode entry.1).parent? else none).toArray
    else none
  edgeCount_eq : g.edgeCount = (entries.filterMap fun entry =>
    if (originOf start.lastNode entry.1).parent?.isSome then some entry.2 else none).length

/-- A graph without edges has no node hung. -/
lemma hung_nil (h : Added spans g) : Hung g [] g where
  spans_eq := rfl
  lastNode_eq := rfl
  rootNodes_eq := rfl
  orphanNodes_eq := by rw [h.orphanNodes_eq, List.filterMap_nil]
  childEdges_eq parent := by
    rw [h.childEdges_eq, Array.getElem?_replicate, Array.size_replicate, List.filterMap_nil]
  parentNodes_eq child := by
    rw [h.parentNodes_eq, Array.getElem?_replicate, Array.size_replicate, List.filterMap_nil]
  edgeCount_eq := by rw [h.edgeCount_eq, List.filterMap_nil, List.length_nil]

/-- One more node is hung. -/
lemma Hung.step (h : Hung start entries g) (entry : Span × Nat) :
    Hung start (entries ++ [entry]) (g.hang entry) := by
  obtain ⟨hspans, hlast, hroots, horphans, hchildren, hparents, hcount⟩ := h
  rw [hang]
  cases horigin : originOf g.lastNode entry.1 with
  | root | orphan =>
    rw [hlast] at horigin
    refine ⟨hspans, hlast, hroots, ?_, fun parent => ?_, fun child => ?_, ?_⟩ <;>
      simp [horigin, horphans, hchildren, hparents, hcount, Origin.parent?]
  | child above =>
    rw [hlast] at horigin
    refine ⟨hspans, hlast, hroots, ?_, fun parent => ?_, fun child => ?_, ?_⟩
    · simp [connect, horigin, horphans]
    · simp only [connect, Array.getElem?_modify, hchildren]
      by_cases heq : above = parent <;> by_cases hlt : parent < start.childEdges.size <;>
        simp [horigin, heq, hlt]
    · simp only [connect, Array.getElem?_modify, hparents]
      by_cases heq : entry.2 = child <;> by_cases hlt : child < start.parentNodes.size <;>
        simp [horigin, heq, hlt, Origin.parent?]
    · simp [connect, horigin, hcount, Origin.parent?]

/-- The nodes of all entries are hung. -/
lemma hung_foldl (h : Hung start entries g) (others : List (Span × Nat)) :
    Hung start (entries ++ others) (others.foldl hang g) := by
  induction others generalizing entries g with
  | nil => rwa [List.append_nil]
  | cons entry others ih =>
    rw [List.foldl_cons, ← List.singleton_append, ← List.append_assoc]
    exact ih (h.step entry)

/-- **All nodes of a batch are hung** when the second pass is over. -/
lemma hung_build (spans : List Span) :
    Hung (spans.foldl add {}) spans.zipIdx (build spans) :=
  hung_foldl (hung_nil (added_foldl spans)) spans.zipIdx

/-! ### Spans and identifiers of a batch -/

@[simp] lemma spans_build (spans : List Span) : (build spans).spans = spans.toArray :=
  (hung_build spans).spans_eq.trans (added_foldl spans).spans_eq

@[simp] lemma lastNode_build (spans : List Span) : (build spans).lastNode = index spans :=
  (hung_build spans).lastNode_eq.trans (added_foldl spans).lastNode_eq

/-- A node of a batch takes as long as its span. -/
lemma duration_build {node : Nat} (h : spans[node]? = some span) :
    (build spans).duration node = span.duration := by
  rw [duration, spans_build, List.getElem?_toArray, h, Option.elim_some]

/-- There is a node for each span of a batch. -/
lemma size_build (spans : List Span) : (build spans).size = spans.length := by
  rw [size, spans_build, List.size_toArray]

end Graph
end CausalTrace
