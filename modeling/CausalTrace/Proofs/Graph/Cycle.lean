/-
Which graphs are refused.

* `Grounded`: the walk along the parents of a node ends at a root or an
  orphan; `not_cyclic_iff_grounded`: in an acyclic graph, and in no other,
  this is so for every node;
* `OneTrace`: the spans of a batch are of one trace; `ofSpans_of_oneTrace`,
  `ofSpans_of_not_oneTrace`: such a batch has a graph, any other is refused;
* `criticalPath_eq_error_iff`, `nearCriticalPaths_eq_error_iff`: paths are
  looked for in every graph that has an order, and in no other;
* `cyclic_graphs_refused`: the search for cycles is right on every batch of
  one trace, and only graphs with a cycle are refused.
-/
import CausalTrace.CriticalPath
import CausalTrace.Proofs.Graph.Search
import Mathlib.Data.List.Permutation

namespace CausalTrace
namespace Graph

variable {g : Graph}

/-! ### Walks along parents -/

/-- The walk along the parents of a node ends at a root or an orphan. -/
inductive Grounded (g : Graph) : (node : Nat) → Prop where
  | ofTop {node : Nat} : g.IsTop node → Grounded g node
  | ofParent {node parent : Nat} : parent ∈ g.parents node → Grounded g parent → Grounded g node

/-- A grounded node is not below itself: what is above it is grounded
too. -/
lemma Grounded.not_transGen (hg : g.Linked) {node : Nat} (h : g.Grounded node) :
    ¬ Relation.TransGen g.Edge node node := by
  induction h with
  | ofTop htop =>
    intro hcycle
    obtain ⟨parent, -, hedge⟩ := Relation.TransGen.tail'_iff.1 hcycle
    exact hg.not_edge_of_isTop htop hedge
  | @ofParent node parent hparent _ ih =>
    intro hcycle
    have hedge : g.Edge parent node := hg.edge_iff.2 (hg.mem_parents_iff.1 hparent)
    obtain ⟨last, hdown, hlast⟩ := Relation.TransGen.tail'_iff.1 hcycle
    -- the last step of the closed walk comes from the only parent
    have hsame : last = parent := hg.eq_of_edge hlast hedge
    exact ih (Relation.TransGen.head' hedge (hsame ▸ hdown))

/-- In a topological order every node is grounded, because its parent comes
before it. -/
lemma TopologicalOrder.grounded (hg : g.Linked) {order : List Nat}
    (horder : g.TopologicalOrder order) {node : Nat} (hnode : node < g.size) :
    g.Grounded node := by
  induction hrank : order.idxOf node using Nat.strongRecOn generalizing node with
  | ind rank ih =>
    cases hparent : g.parent? node with
    | none => exact .ofTop (hg.isTop_iff.2 ⟨hnode, hparent⟩)
    | some parent =>
      have hlt := horder.before (hg.edge_iff.2 hparent)
      exact .ofParent (hg.mem_parents_iff.2 hparent)
        (ih _ (hrank ▸ hlt) (hg.parent_lt hparent) rfl)

/-- A graph is acyclic exactly if all its nodes are grounded. -/
lemma not_cyclic_iff_grounded (hg : g.Linked) :
    ¬ g.Cyclic ↔ ∀ node < g.size, g.Grounded node := by
  constructor
  · intro hcycle node hnode
    obtain ⟨order, -, horder⟩ := exists_order?_eq_ok hg hcycle
    exact horder.grounded hg hnode
  · rintro hall ⟨node, hcycle⟩
    obtain ⟨parent, -, hedge⟩ := Relation.TransGen.tail'_iff.1 hcycle
    exact (hall node (hg.child_lt hedge)).not_transGen hg hcycle

/-! ### Refusals -/

/-- All spans are of one trace. -/
def OneTrace (spans : List Span) : Prop :=
  ∃ id, ∀ span ∈ spans, span.traceId = id

/-- A batch of one trace has a graph. -/
lemma ofSpans_of_oneTrace {spans : List Span} (h : OneTrace spans) :
    ofSpans spans = .ok (build spans) := by
  obtain ⟨id, hid⟩ := h
  cases spans with
  | nil => rfl
  | cons first rest =>
    refine ofSpans_eq_ok_iff.2 ⟨?_, rfl⟩
    intro span hspan
    rw [hid span (List.mem_cons_of_mem _ hspan), hid first List.mem_cons_self]

/-- A batch of more than one trace is refused for two of them. -/
lemma ofSpans_of_not_oneTrace {spans : List Span} (h : ¬ OneTrace spans) :
    ∃ a ∈ spans, ∃ b ∈ spans, a.traceId ≠ b.traceId ∧
      ofSpans spans = .error (.mixedTraces a.traceId b.traceId) := by
  cases spans with
  | nil => exact absurd ⟨.ofNat 16 0, by simp⟩ h
  | cons first rest =>
    rw [ofSpans]
    cases hfind : rest.find? (·.traceId ≠ first.traceId) with
    | some other =>
      have hne : other.traceId ≠ first.traceId := by simpa using List.find?_some hfind
      exact ⟨first, List.mem_cons_self, other,
        List.mem_cons_of_mem _ (List.mem_of_find?_eq_some hfind), hne.symm, rfl⟩
    | none =>
      have hsame : ∀ span ∈ rest, span.traceId = first.traceId := by
        simpa [List.find?_eq_none] using hfind
      exact absurd ⟨first.traceId, by simpa using hsame⟩ h

/-- An order is refused exactly to a graph with a cycle. -/
lemma order?_eq_error_iff (hg : g.Linked) {error : TraceError} :
    g.order? = .error error ↔ error = .cyclic ∧ g.Cyclic := by
  by_cases hcycle : g.Cyclic
  · rw [order?_eq_error hg hcycle]
    simp [hcycle, eq_comm]
  · obtain ⟨order, hok, -⟩ := exists_order?_eq_ok hg hcycle
    rw [hok]
    simp [hcycle]

/-- The critical path is refused exactly to a graph without an order. -/
lemma criticalPath_eq_error_iff {error : TraceError} :
    g.criticalPath = .error error ↔ g.order? = .error error := by
  rw [criticalPath]
  cases g.order? with
  | error => simp [bind, Except.bind]
  | ok order =>
    simp only [bind, Except.bind, pure, Except.pure]
    split <;> simp

/-- The near-critical paths are refused exactly to a graph without an
order. -/
lemma nearCriticalPaths_eq_error_iff {tolerance : Int} {error : TraceError} :
    g.nearCriticalPaths tolerance = .error error ↔ g.order? = .error error := by
  rw [nearCriticalPaths]
  cases g.order? with
  | error => simp [bind, Except.bind]
  | ok order =>
    simp only [bind, Except.bind, pure, Except.pure]
    split <;> simp

/-- **Exactly the graphs with a cycle are refused**: every batch of one
trace has a graph. It is called acyclic if no closed walk leads along its
edges, or, what is the same, if the walk along the parents of each node
ends at a root or an orphan. Without that there is neither an order nor a
critical path nor any near-critical path, and for no other reason. -/
theorem cyclic_graphs_refused {spans : List Span} (h : OneTrace spans) :
    ∃ g, ofSpans spans = .ok g ∧
      (g.isAcyclic = true ↔ ¬ ∃ node, Relation.TransGen g.Edge node node) ∧
      (g.isAcyclic = true ↔ ∀ node < g.size, g.Grounded node) ∧
      (∀ error, g.order? = .error error ↔ error = .cyclic ∧ g.Cyclic) ∧
      (∀ error, g.criticalPath = .error error ↔ error = .cyclic ∧ g.Cyclic) ∧
      ∀ tolerance error,
        g.nearCriticalPaths tolerance = .error error ↔ error = .cyclic ∧ g.Cyclic := by
  have hg := linked_build spans
  refine ⟨build spans, ofSpans_of_oneTrace h, isAcyclic_iff hg, ?_, ?_, ?_, ?_⟩
  · rw [isAcyclic_iff hg, not_cyclic_iff_grounded hg]
  · intro error
    exact order?_eq_error_iff hg
  · intro error
    rw [criticalPath_eq_error_iff, order?_eq_error_iff hg]
  · intro tolerance error
    rw [nearCriticalPaths_eq_error_iff, order?_eq_error_iff hg]

/-- Two spans that name each other as their parents. -/
def mutualParents : List Span :=
  [{ name := "ask", startTime := 0, endTime := 5, clock := 0, process := 1, thread := 1,
     traceId := .ofNat 16 7, spanId := .ofNat 8 1, parentId := some (.ofNat 8 2) },
   { name := "answer", startTime := 1, endTime := 4, clock := 1, process := 2, thread := 1,
     traceId := .ofNat 16 7, spanId := .ofNat 8 2, parentId := some (.ofNat 8 1) }]

/-- No root reaches the cycle of two spans that name each other; it is found
all the same. -/
theorem mutual_parents_refused :
    OneTrace mutualParents ∧ ∃ g, ofSpans mutualParents = .ok g ∧ g.roots = [] ∧
      g.isAcyclic = false ∧ g.criticalPath = .error .cyclic := by
  have hone : OneTrace mutualParents := ⟨.ofNat 16 7, by simp [mutualParents]⟩
  obtain ⟨g, hg, hacyclic, -, -, hpath, -⟩ := cyclic_graphs_refused hone
  obtain rfl : build mutualParents = g := Except.ok.inj ((ofSpans_of_oneTrace hone).symm.trans hg)
  have hask : (build mutualParents).Edge 0 1 := by
    rw [Edge, show (build mutualParents).childrenOf 0 = [1] by cbv]
    exact List.mem_singleton_self 1
  have hanswer : (build mutualParents).Edge 1 0 := by
    rw [Edge, show (build mutualParents).childrenOf 1 = [0] by cbv]
    exact List.mem_singleton_self 0
  have hcycle : (build mutualParents).Cyclic := ⟨0, (Relation.TransGen.single hask).tail hanswer⟩
  refine ⟨hone, build mutualParents, hg, by cbv, ?_, (hpath .cyclic).2 ⟨rfl, hcycle⟩⟩
  rw [← Bool.not_eq_true, hacyclic]
  exact not_not_intro hcycle

end Graph
end CausalTrace
