/-
Critical paths: the chains of a causal graph that take longest.

* `CriticalPath`: a chain of nodes with its total, the durations by node
  and the names along it;
* `Graph.distances`: for each node the time along the chain that ends
  there, worked out parents first;
* `Graph.criticalPath`: the chain with the greatest total; among equals
  the one that ends at the lowest node;
* `Graph.nearCriticalPaths`: the chains to all leaves whose totals are
  within a tolerance of the greatest.
-/
import CausalTrace.Graph.Sweep
import CausalTrace.Tally

namespace CausalTrace

/-- A chain of nodes that bounds the time of a trace. Paths from outside
may name any numbers as nodes and durations. -/
structure CriticalPath where
  path : List Int := []
  total : Int := 0
  durations : List (Int × Int) := []
  names : List String := []
deriving DecidableEq

namespace CriticalPath

/-- A path without nodes. -/
def isEmpty (p : CriticalPath) : Bool :=
  p.path.isEmpty

/-- The total of the path in percent of a time. -/
def percentageOf (p : CriticalPath) (time : Int) : Except Overflow Binary64 :=
  percentage p.total time

/-- The node with the longest duration, and that duration; among equals
the lowest node. -/
def longest? (p : CriticalPath) : Option (Int × Int) :=
  Tally.leader? p.durations

/-- Whether a node has a duration on the path. -/
def contains (p : CriticalPath) (node : Int) : Bool :=
  p.durations.any (·.1 = node)

end CriticalPath

namespace Graph

/-- Fills in the time along the chain to a node: that to its parent, and
its own. -/
def measure (g : Graph) (done : Array Nat) (node : Nat) : Array Nat :=
  let before := match g.parent? node with
    | some parent => done.getD parent 0
    | none => 0
  done.setIfInBounds node (before + g.duration node)

/-- For each node the time along the chain from its root or orphan to it.
The order names parents before children. -/
def distances (g : Graph) (order : List Nat) : Array Nat :=
  order.foldl g.measure (Array.replicate g.size 0)

/-- The chain that leads to a node, in front of the nodes behind it, for
as many steps upwards as are allowed. -/
def chainBefore (g : Graph) : (steps : Nat) → (node : Nat) → (behind : List Nat) → List Nat
  | 0, node, behind => node :: behind
  | steps + 1, node, behind =>
    match g.parent? node with
    | some parent => g.chainBefore steps parent (node :: behind)
    | none => node :: behind

/-- The chain from a root or orphan to a node. No chain of an acyclic
graph has more steps than the graph has nodes. -/
def chain (g : Graph) (node : Nat) : List Nat :=
  g.chainBefore g.size node []

/-- The path that ends at a node. -/
def pathTo (g : Graph) (distances : Array Nat) (node : Nat) : CriticalPath :=
  let chain := g.chain node
  { path := chain.map Int.ofNat
    total := distances.getD node 0
    durations := chain.map fun (node : Nat) => ((node : Int), (g.duration node : Int))
    names := chain.map g.name }

/-- The distances of all nodes, by node. -/
def ranking (g : Graph) (distances : Array Nat) : List (Int × Int) :=
  g.nodes.map fun (node : Nat) => ((node : Int), (distances.getD node 0 : Int))

/-- The chain that takes longest; none in an empty graph. -/
def criticalPath (g : Graph) : Except TraceError CriticalPath := do
  let distances := g.distances (← g.order?)
  match Tally.leader? (g.ranking distances) with
  | some (last, _) => return g.pathTo distances last.toNat
  | none => return {}

/-- The chains to all leaves whose totals are within a tolerance of the
greatest, the longest first and the lowest leaf first among equals. A
negative tolerance counts as none. -/
def nearCriticalPaths (g : Graph) (tolerance : Int) : Except TraceError (List CriticalPath) := do
  let distances := g.distances (← g.order?)
  let distance (node : Nat) : Nat := distances.getD node 0
  match Tally.leader? (g.ranking distances) with
  | none => return []
  | some (_, longest) =>
    let leaves := g.nodes.filter fun node => (g.childrenOf node).isEmpty
    let near := leaves.filter fun node => longest - max tolerance 0 ≤ distance node
    let sorted := near.mergeSort fun a b => decide (distance b ≤ distance a)
    return sorted.map (g.pathTo distances)

end Graph
end CausalTrace
