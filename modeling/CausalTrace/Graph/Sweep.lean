/-
Depth-first visits of the nodes of a graph.

* `sweep`: visits what can be reached from some waiting nodes, each node
  once, the last child first;
* `Graph.descendants`: a node and all below it, in the order of the
  visit;
* `search`: follows a path down and back up, and stops at a child that is
  on the path already;
* `Graph.isAcyclic`: whether a search of all nodes never stops so;
* `Graph.order?`: all nodes, parents before children.
-/
import CausalTrace.Graph.Basic

namespace CausalTrace

/-- Visits the waiting nodes that are fresh, and all fresh nodes that can
be reached from them, depth first and the last child first. Returns what
is still fresh and the visited nodes, latest first. -/
def sweep (next : Nat → List Nat) (fresh : Array Bool) (waiting found : List Nat) :
    Array Bool × List Nat :=
  match waiting with
  | [] => (fresh, found)
  | node :: waiting =>
    if h : ∃ bound : node < fresh.size, fresh[node] = true then
      sweep next (fresh.set node false h.1) ((next node).reverse ++ waiting) (node :: found)
    else sweep next fresh waiting found
termination_by (fresh.count true, waiting.length)
decreasing_by
  · apply Prod.Lex.left
    obtain ⟨bound, htrue⟩ := h
    have hpos : 0 < fresh.count true := by
      rw [Array.count_pos_iff]
      exact htrue ▸ Array.getElem_mem bound
    rw [Array.count_set, if_pos (beq_iff_eq.2 htrue), if_neg (by decide)]
    omega
  · apply Prod.Lex.right
    exact Nat.lt_succ_self _

/-! ### Descendants -/

namespace Graph

/-- Every node is fresh. -/
def allFresh (g : Graph) : Array Bool :=
  Array.replicate g.size true

/-- A node and all nodes below it, parents before children; nothing for
what is no node. -/
def descendants (g : Graph) : Int → List Nat
  | .ofNat node => (sweep g.childrenOf g.allFresh [node] []).2.reverse
  | .negSucc _ => []

end Graph

/-! ### Cycles and order -/

/-- How far a search has come with a node: not met yet, on the path that
is followed, or left for good. -/
inductive Mark where
  | fresh
  | entered
  | left
deriving DecidableEq, Repr

/-- A node on the path that is followed, and those of its children that
are still to be looked at. -/
structure Frame where
  node : Nat
  ahead : List Nat

/-- How many looks a path still takes: one for each child, and one to
leave each node. -/
def looks : List Frame → Nat
  | [] => 0
  | frame :: path => frame.ahead.length + 1 + looks path

/-- Setting a mark other than fresh makes no node fresh. -/
theorem count_fresh_set_le (marks : Array Mark) (node : Nat) (mark : Mark)
    (h : mark ≠ .fresh) :
    (marks.setIfInBounds node mark).count .fresh ≤ marks.count .fresh := by
  rw [Array.setIfInBounds]
  split
  · rw [Array.count_set, if_neg (c := (mark == Mark.fresh) = true) (by simpa using h)]
    omega
  · exact Nat.le_refl _

/-- Entering a fresh node leaves fewer fresh ones. -/
theorem count_fresh_enter_lt {marks : Array Mark} {node : Nat} (h : marks[node]? = some .fresh) :
    (marks.setIfInBounds node .entered).count .fresh < marks.count .fresh := by
  obtain ⟨hbound, hfresh⟩ := Array.getElem?_eq_some_iff.1 h
  have hpos : 0 < marks.count .fresh := by
    rw [Array.count_pos_iff]
    exact hfresh ▸ Array.getElem_mem hbound
  rw [Array.setIfInBounds, dif_pos hbound, Array.count_set, if_pos (beq_iff_eq.2 hfresh),
    if_neg (by decide)]
  omega

/-- Follows a path, its last node in front, until all its nodes are left.
Returns the marks and the nodes that were left, the latest first. There is
no result if a child is on the path itself, because it closes a cycle. -/
def search (next : Nat → List Nat) (marks : Array Mark) (path : List Frame) (found : List Nat) :
    Option (Array Mark × List Nat) :=
  match path with
  | [] => some (marks, found)
  | ⟨node, []⟩ :: path => search next (marks.setIfInBounds node .left) path (node :: found)
  | ⟨node, child :: ahead⟩ :: path =>
    match _h : marks[child]? with
    | some .entered => none
    | some .fresh =>
      search next (marks.setIfInBounds child .entered)
        (⟨child, next child⟩ :: ⟨node, ahead⟩ :: path) found
    | _ => search next marks (⟨node, ahead⟩ :: path) found
termination_by (marks.count .fresh, looks path)
decreasing_by
  · rcases Nat.lt_or_eq_of_le (count_fresh_set_le marks node .left (by decide)) with hlt | heq
    · exact Prod.Lex.left _ _ hlt
    · rw [heq]
      exact Prod.Lex.right _ (by simp [looks])
  · exact Prod.Lex.left _ _ (count_fresh_enter_lt _h)
  · exact Prod.Lex.right _ (by simp [looks])

namespace Graph

/-- Searches from one start after the other; starts that were met already
are passed over. -/
def searchFrom (g : Graph) : (starts : List Nat) → (marks : Array Mark) → (found : List Nat) →
    Option (List Nat)
  | [], _, found => some found
  | start :: starts, marks, found =>
    if marks[start]? = some .fresh then
      match search g.childrenOf (marks.setIfInBounds start .entered)
          [⟨start, g.childrenOf start⟩] found with
      | some (marks, found) => g.searchFrom starts marks found
      | none => none
    else g.searchFrom starts marks found

/-- The nodes without those of a list. -/
def nodesWithout (g : Graph) (others : List Nat) : List Nat :=
  let left := others.foldl (fun left node => left.setIfInBounds node false) g.allFresh
  g.nodes.filter fun node => left.getD node false

/-- A node is left unless it is in the list. -/
theorem mem_nodesWithout_iff {g : Graph} {others : List Nat} {node : Nat} :
    node ∈ g.nodesWithout others ↔ node < g.size ∧ node ∉ others := by
  have hleft : ∀ left : Array Bool,
      (others.foldl (fun left node => left.setIfInBounds node false) left).getD node false =
        (left.getD node false && decide (node ∉ others)) := by
    induction others with
    | nil => simp
    | cons other others ih =>
      intro left
      rw [List.foldl_cons, ih]
      by_cases heq : other = node
      · simp [heq, Array.getD_eq_getD_getElem?]
      · simp [heq, Ne.symm heq, Array.getD_eq_getD_getElem?]
  rw [nodesWithout, List.mem_filter, nodes, List.mem_range, hleft]
  refine and_congr_right fun hnode => ?_
  simp [allFresh, hnode]

/-- The nodes from which a graph is searched: the roots, then all others,
because no root reaches a cycle. -/
def starts (g : Graph) : List Nat :=
  g.roots ++ g.nodesWithout g.roots

/-- Searches the whole graph. -/
def searchAll (g : Graph) : Option (List Nat) :=
  g.searchFrom g.starts (Array.replicate g.size .fresh) []

/-- Whether no node is below itself. -/
def isAcyclic (g : Graph) : Bool :=
  g.searchAll.isSome

/-- All nodes, parents before children; a graph with a cycle has no such
order. -/
def order? (g : Graph) : Except TraceError (List Nat) :=
  match g.searchAll with
  | some order => .ok order
  | none => .error .cyclic

end Graph
end CausalTrace
