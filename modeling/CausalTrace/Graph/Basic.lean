/-
The causal graph of a batch of spans. Nodes are the positions in the
batch; each span with a known parent is a child of that parent's node.

* `Origin`: whether a node is a root, an orphan or a child;
* `Graph.add`: takes up a span as the next node;
* `Graph.hang`: hangs a node below its parent, the last node that carries
  the identifier of the parent span;
* `Graph.build`, `Graph.ofSpans`: the graph of a batch: all its spans are taken
  up, then all nodes are hung; they have to be of one trace.
-/
import CausalTrace.Failure
import CausalTrace.Span
import Std.Data.HashMap

namespace CausalTrace

/-- Where a node hangs: nowhere, because its span has no parent or
because the parent is not in the batch, or below another node. -/
inductive Origin where
  | root
  | orphan
  | child (parent : Nat)
deriving DecidableEq, Repr

/-- The causal graph of a batch: its spans, the last node that carries
each span identifier, the roots and the orphans, the children of each node,
each with the weight of its edge, the parents of each node, and the number
of edges. -/
structure Graph where
  spans : Array Span := #[]
  lastNode : Std.HashMap SpanId Nat := ∅
  rootNodes : Array Nat := #[]
  orphanNodes : Array Nat := #[]
  childEdges : Array (Array (Nat × Nat)) := #[]
  parentNodes : Array (Array Nat) := #[]
  edgeCount : Nat := 0

namespace Graph

/-- Takes up a span as the next node. It has no edges yet. -/
def add (g : Graph) (span : Span) : Graph :=
  let node := g.spans.size
  { g with
    spans := g.spans.push span
    lastNode := g.lastNode.insert span.spanId node
    rootNodes := if span.isRoot then g.rootNodes.push node else g.rootNodes
    childEdges := g.childEdges.push #[]
    parentNodes := g.parentNodes.push #[] }

/-- The origin of a span in a batch. -/
def originOf (lastNode : Std.HashMap SpanId Nat) (span : Span) : Origin :=
  match span.parentId with
  | none => .root
  | some parent =>
    match lastNode[parent]? with
    | some node => .child node
    | none => .orphan

/-- Adds the edge from a parent to a child. Its weight is the duration of
the child. -/
def connect (g : Graph) (parent child weight : Nat) : Graph :=
  { g with
    childEdges := g.childEdges.modify parent (·.push (child, weight))
    parentNodes := g.parentNodes.modify child (·.push parent)
    edgeCount := g.edgeCount + 1 }

/-- Hangs the node of a span below its parent, if it has one. -/
def hang (g : Graph) (entry : Span × Nat) : Graph :=
  match originOf g.lastNode entry.1 with
  | .root => g
  | .orphan => { g with orphanNodes := g.orphanNodes.push entry.2 }
  | .child parent => g.connect parent entry.2 entry.1.duration

/-- The graph of a batch of spans of one trace. Parents may come behind
their children, so that all spans are taken up before any node is hung. -/
def build (spans : List Span) : Graph :=
  spans.zipIdx.foldl hang (spans.foldl add {})

/-- The graph of a batch, which has to be of one trace. -/
def ofSpans : List Span → Except TraceError Graph
  | [] => .ok (build [])
  | first :: rest =>
    match rest.find? (·.traceId ≠ first.traceId) with
    | some other => .error (.mixedTraces first.traceId other.traceId)
    | none => .ok (build (first :: rest))

/-! ### Nodes -/

/-- The number of nodes. -/
def size (g : Graph) : Nat :=
  g.spans.size

/-- All nodes. -/
def nodes (g : Graph) : List Nat :=
  List.range g.size

/-- The span of a node, if there is such a node. -/
def span? (g : Graph) : Int → Option Span
  | .ofNat node => g.spans[node]?
  | .negSucc _ => none

/-- The last node that carries a span identifier. -/
def node? (g : Graph) (id : SpanId) : Option Nat :=
  g.lastNode[id]?

/-- The last node that carries an identifier with the given bytes. -/
def nodeOfBytes? (g : Graph) (bytes : List UInt8) : Option Nat :=
  (Ident.ofBytes? 8 bytes).bind g.node?

/-- The span of the last node that carries an identifier with the given
bytes. -/
def spanOfBytes? (g : Graph) (bytes : List UInt8) : Option Span :=
  (g.nodeOfBytes? bytes).bind fun node => g.spans[node]?

/-- The nodes whose spans have no parent. -/
def roots (g : Graph) : List Nat :=
  g.rootNodes.toList

/-- The nodes whose parents are not in the batch. -/
def orphans (g : Graph) : List Nat :=
  g.orphanNodes.toList

/-- The duration of a node. -/
def duration (g : Graph) (node : Nat) : Nat :=
  (g.spans[node]?).elim 0 Span.duration

/-- The name of the span of a node. -/
def name (g : Graph) (node : Nat) : String :=
  (g.spans[node]?).elim "" (·.name)

/-! ### Edges -/

/-- The children of a node, in ascending order. -/
def childrenOf (g : Graph) (node : Nat) : List Nat :=
  (g.childEdges.getD node #[]).toList.map (·.1)

/-- The children of a node, each with its duration as the weight of the
edge. -/
def children (g : Graph) : Int → List (Nat × Nat)
  | .ofNat node => (g.childEdges.getD node #[]).toList
  | .negSucc _ => []

/-- The parents of a node: one or none. -/
def parents (g : Graph) : Int → List Nat
  | .ofNat node => (g.parentNodes.getD node #[]).toList
  | .negSucc _ => []

/-- The parent of a node. -/
def parent? (g : Graph) (node : Nat) : Option Nat :=
  (g.parents node).head?

/-- The time from the earliest start to the latest end. -/
def totalDuration (g : Graph) : Nat :=
  let spans := g.spans.toList
  match (spans.map (·.startTime)).min?, (spans.map (·.endTime)).max? with
  | some start, some stop => (stop - start).toNat
  | _, _ => 0

/-- A batch is accepted exactly when all its spans are of the trace of
the first. -/
theorem ofSpans_eq_ok_iff {first : Span} {rest : List Span} {g : Graph} :
    ofSpans (first :: rest) = .ok g ↔
      (∀ span ∈ rest, span.traceId = first.traceId) ∧ g = build (first :: rest) := by
  rw [ofSpans]
  cases h : rest.find? (·.traceId ≠ first.traceId) with
  | some other =>
    have hne := List.find?_some h
    have hmem := List.mem_of_find?_eq_some h
    simp only [reduceCtorEq, false_iff, not_and]
    intro hall
    simp [hall other hmem] at hne
  | none =>
    have hall : ∀ span ∈ rest, span.traceId = first.traceId := by
      simpa [List.find?_eq_none] using h
    exact ⟨fun hok => ⟨hall, (Except.ok.inj hok).symm⟩, fun hboth => by rw [hboth.2]⟩

end Graph
end CausalTrace
