/-
The views of the graph of a batch.

* `sum_length_children`, `sum_length_parents`: the lists of children and those of
  parents have as many entries as there are edges;
* `ofSpans_eq_error_iff`, `one_lt_length_groupByTrace_iff`: a batch is refused for the
  first trace in it that is not that of its first span, and so exactly if it has more
  than one group;
* `Mirrors`: children, parents, roots, orphans and counts are those of a batch;
  `graph_views_agree`: **so they are in every batch of one trace**, whatever
  identifiers come twice.
-/
import CausalTrace.Proofs.Graph.Cycle
import CausalTrace.Proofs.Graph.Origin
import CausalTrace.Proofs.Time
import CausalTrace.Report
import Mathlib.Algebra.BigOperators.Group.Finset.Basic
import Mathlib.Algebra.GroupWithZero.Nat
import Mathlib.Order.Interval.Finset.Nat

namespace CausalTrace
namespace Graph

variable {g : Graph} {spans : List Span} {node parent child : Nat}

/-! ### Counts of edges -/

/-- Every number is counted once. -/
lemma sum_count_range {numbers : List Nat} {bound : Nat} (h : ∀ n ∈ numbers, n < bound) :
    ((List.range bound).map fun n => numbers.count n).sum = numbers.length := by
  have hcard := Multiset.sum_count_eq_card (s := Finset.range bound)
    (m := (numbers : Multiset Nat)) fun n hn => Finset.mem_range.2 (h n (Multiset.mem_coe.1 hn))
  rw [← List.toFinset_range, List.sum_toFinset _ List.nodup_range] at hcard
  simpa only [Multiset.coe_count, Multiset.coe_card] using hcard

/-- The lists of children have as many entries as there are edges. -/
lemma sum_length_children (hg : g.Linked) :
    (g.nodes.map fun node : Nat => (g.children node).length).sum = g.edgeCount := by
  have hcount : g.edgeCount = (g.nodes.filterMap g.parent?).length := by
    rw [hg.edgeCount_eq, List.length_filterMap_eq_countP]
    simp only [hg.parent?_eq]
  have hlength : ∀ node : Nat,
      (g.children node).length = (g.nodes.filterMap g.parent?).count node := by
    intro node
    rw [hg.children_eq, List.length_map, ← List.countP_eq_length_filter, List.count_filterMap]
    simp only [beq_eq_decide, ← hg.parent?_eq_some_iff]
  simp only [hlength, hcount]
  refine sum_count_range fun parent hparent => ?_
  obtain ⟨child, -, hchild⟩ := List.mem_filterMap.1 hparent
  exact hg.parent_lt hchild

/-- The lists of parents have as many entries as there are edges. -/
lemma sum_length_parents (hg : g.Linked) :
    (g.nodes.map fun node : Nat => (g.parents node).length).sum = g.edgeCount := by
  rw [hg.edgeCount_eq]
  simp only [hg.parents_eq]
  generalize g.nodes = nodes
  induction nodes with
  | nil => rfl
  | cons node nodes ih =>
    rw [List.map_cons, List.sum_cons, ih, List.countP_cons, Nat.add_comm]
    cases (g.origin node).parent? <;> rfl

/-! ### Traces of a batch -/

/-- The first span of a batch, and the first one that is not of its trace. -/
def FirstOther (spans : List Span) (first other : Span) : Prop :=
  ∃ same rest, spans = first :: same ++ other :: rest ∧
    (∀ span ∈ same, span.traceId = first.traceId) ∧ other.traceId ≠ first.traceId

/-- A batch is refused for the first trace that is not that of its first span. -/
lemma ofSpans_eq_error_iff {error : TraceError} :
    ofSpans spans = .error error ↔ ∃ first other, FirstOther spans first other ∧
      error = .mixedTraces first.traceId other.traceId := by
  cases spans with
  | nil => simp [ofSpans, FirstOther]
  | cons first rest =>
    have hfind : ∀ other, rest.find? (·.traceId ≠ first.traceId) = some other ↔
        FirstOther (first :: rest) first other := by
      intro other
      simp only [List.find?_eq_some_iff_append, FirstOther, decide_eq_true_eq, Bool.not_eq_true',
        decide_eq_false_iff_not, not_not, List.cons_append, List.cons.injEq, true_and]
      constructor
      · rintro ⟨hne, same, after, heq, hsame⟩
        exact ⟨same, after, heq, hsame, hne⟩
      · rintro ⟨same, after, heq, hsame, hne⟩
        exact ⟨hne, same, after, heq, hsame⟩
    have hfirst : ∀ {other other'}, FirstOther (first :: rest) other other' → other = first := by
      rintro other other' ⟨same, after, heq, -⟩
      exact (List.cons.inj heq).1.symm
    rw [ofSpans]
    constructor
    · intro herror
      split at herror
      · rename_i other hother
        exact ⟨first, other, (hfind other).1 hother, (Except.error.inj herror).symm⟩
      · cases herror
    · rintro ⟨first', other, hother, rfl⟩
      obtain rfl := hfirst hother
      simp only [(hfind other).2 hother]

/-- A batch has more than one group exactly if it mixes traces. -/
lemma one_lt_length_groupByTrace_iff : 1 < (groupByTrace spans).length ↔
    ∃ error, ofSpans spans = .error error := by
  rw [groupByTrace, List.length_map]
  cases spans with
  | nil => simp [ofSpans]
  | cons first rest =>
    have hlength : 1 < ((first :: rest).map (·.traceId)).eraseDups.length ↔
        ∃ span ∈ rest, span.traceId ≠ first.traceId := by
      rw [List.map_cons, List.eraseDups_cons, List.length_cons, Nat.lt_add_left_iff_pos,
        List.length_pos_iff_exists_mem]
      simp
    rw [hlength, ofSpans]
    cases hother : rest.find? (·.traceId ≠ first.traceId) with
    | none => simpa using hother
    | some other =>
      have hne := List.find?_some hother
      simp only [Except.error.injEq, exists_eq', iff_true]
      exact ⟨other, List.mem_of_find?_eq_some hother, of_decide_eq_true hne⟩

/-! ### The views of a graph -/

/-- A child is listed with its duration. -/
lemma mem_children_iff (hg : g.Linked) {weight : Nat} :
    (child, weight) ∈ g.children parent ↔ g.Edge parent child ∧ g.duration child = weight := by
  rw [Edge, hg.childrenOf_eq, hg.children_eq]
  simp only [hg.parent?_eq_some_iff, List.mem_map, Prod.mk.injEq]
  constructor
  · rintro ⟨_, hchild, rfl, hduration⟩
    exact ⟨hchild, hduration⟩
  · rintro ⟨hchild, hduration⟩
    exact ⟨child, hchild, rfl, hduration⟩

/-- The duration of a node is read off its span. -/
lemma duration_build_eq_iff {span : Span} {weight : Nat} (h : spans[node]? = some span) :
    (build spans).duration node = weight ↔
      (weight : Int) = max (span.endTime - span.startTime) 0 := by
  rw [duration_build h, ← natCast_duration, Int.natCast_inj, eq_comm]

/-- A child is listed where it hangs, with its duration, and nowhere else. -/
lemma mem_children_build_iff {number : Int} {weight : Nat} :
    (child, weight) ∈ (build spans).children number ↔
      ∃ parent : Nat, number = parent ∧ HangsBelow spans parent child ∧
        ∃ span, spans[child]? = some span ∧
          (weight : Int) = max (span.endTime - span.startTime) 0 := by
  have hweight : ∀ {parent}, HangsBelow spans parent child →
      ((build spans).duration child = weight ↔ ∃ span, spans[child]? = some span ∧
        (weight : Int) = max (span.endTime - span.startTime) 0) := by
    rintro parent ⟨above, below, -, hbelow, -⟩
    rw [duration_build_eq_iff hbelow, hbelow]
    simp only [Option.some.injEq, exists_eq_left']
  cases number with
  | negSucc n =>
    simp only [children, List.not_mem_nil, false_iff]
    rintro ⟨parent, hparent, -⟩
    cases hparent
  | ofNat parent =>
    rw [Int.ofNat_eq_natCast, mem_children_iff (linked_build spans)]
    constructor
    · rintro ⟨hedge, hduration⟩
      have hhangs := edge_build_iff.1 hedge
      exact ⟨parent, rfl, hhangs, (hweight hhangs).1 hduration⟩
    · rintro ⟨_, hnumber, hhangs, hspan⟩
      obtain rfl := Int.ofNat.inj hnumber
      exact ⟨edge_build_iff.2 hhangs, (hweight hhangs).2 hspan⟩

/-- The parents of a number that is no negative one. -/
lemma parents_eq_singleton_iff {number : Int} :
    (build spans).parents number = [parent] ↔
      ∃ child : Nat, number = child ∧ HangsBelow spans parent child := by
  cases number with
  | negSucc n =>
    simp only [parents, List.nil_eq, reduceCtorEq, false_iff]
    rintro ⟨child, hchild, -⟩
    cases hchild
  | ofNat child =>
    have hparent : (build spans).parents child = [parent] ↔ HangsBelow spans parent child := by
      rw [← edge_build_iff, (linked_build spans).edge_iff]
      rw [(linked_build spans).parents_eq, (linked_build spans).parent?_eq]
      cases ((build spans).origin child).parent? <;> simp
    rw [Int.ofNat_eq_natCast, hparent]
    constructor
    · exact fun h => ⟨child, rfl, h⟩
    · rintro ⟨child', hnumber, h⟩
      rwa [Int.ofNat.inj hnumber]

/-- No number has two parents. -/
lemma length_parents_le (hg : g.Linked) (number : Int) : (g.parents number).length ≤ 1 := by
  cases number with
  | negSucc n => exact Nat.zero_le _
  | ofNat node =>
    rw [Int.ofNat_eq_natCast, hg.parents_eq]
    cases (g.origin node).parent? <;> simp

/-- Children are listed in ascending order. -/
lemma pairwise_children (hg : g.Linked) (number : Int) :
    (g.children number).Pairwise fun a b => a.1 < b.1 := by
  cases number with
  | negSucc n => exact List.Pairwise.nil
  | ofNat node =>
    rw [Int.ofNat_eq_natCast, hg.children_eq, List.pairwise_map]
    exact List.pairwise_lt_range.filter _

/-- A node is one of three: a root, an orphan, or below its one parent. -/
lemma root_or_orphan_or_child (hg : g.Linked) (hnode : node < g.size) :
    (node ∈ g.roots ∧ node ∉ g.orphans ∧ g.parents node = []) ∨
    (node ∉ g.roots ∧ node ∈ g.orphans ∧ g.parents node = []) ∨
    (node ∉ g.roots ∧ node ∉ g.orphans ∧ ∃ parent, g.parents node = [parent]) := by
  simp only [hg.parents_eq, hg.roots_eq, hg.orphans_eq, List.mem_filter, nodes, List.mem_range,
    hnode, true_and, decide_eq_true_eq]
  cases g.origin node <;> simp [Origin.parent?]

/-- What each view of a graph says is what the spans of a batch say, and so the views
agree with each other. -/
structure Mirrors (g : Graph) (spans : List Span) : Prop where
  children_iff : ∀ (number : Int) (child weight : Nat), (child, weight) ∈ g.children number ↔
    ∃ parent : Nat, number = parent ∧ HangsBelow spans parent child ∧
      ∃ span, spans[child]? = some span ∧ (weight : Int) = max (span.endTime - span.startTime) 0
  parents_iff : ∀ (number : Int) (parent : Nat), g.parents number = [parent] ↔
    ∃ child : Nat, number = child ∧ HangsBelow spans parent child
  parents_le : ∀ number : Int, (g.parents number).length ≤ 1
  ascending : ∀ number : Int, (g.children number).Pairwise fun a b => a.1 < b.1
  one_of_three : ∀ node < spans.length,
    (node ∈ g.roots ∧ node ∉ g.orphans ∧ g.parents node = []) ∨
    (node ∉ g.roots ∧ node ∈ g.orphans ∧ g.parents node = []) ∨
    (node ∉ g.roots ∧ node ∉ g.orphans ∧ ∃ parent, g.parents node = [parent])
  roots_iff : ∀ node, node ∈ g.roots ↔ ∃ span, spans[node]? = some span ∧ span.parentId = none
  orphans_iff : ∀ node, node ∈ g.orphans ↔ ∃ span id, spans[node]? = some span ∧
    span.parentId = some id ∧ id ∉ spans.map (·.spanId)
  children_count : g.edgeCount = (g.nodes.map fun node : Nat => (g.children node).length).sum
  parents_count : g.edgeCount = (g.nodes.map fun node : Nat => (g.parents node).length).sum

/-- The graph of a batch mirrors it. -/
lemma mirrors_build (spans : List Span) : (build spans).Mirrors spans where
  children_iff _ _ _ := mem_children_build_iff
  parents_iff _ _ := parents_eq_singleton_iff
  parents_le := length_parents_le (linked_build spans)
  ascending := pairwise_children (linked_build spans)
  one_of_three _ hnode :=
    root_or_orphan_or_child (linked_build spans) ((size_build spans).symm ▸ hnode)
  roots_iff _ := mem_roots_build_iff
  orphans_iff _ := mem_orphans_build_iff
  children_count := (sum_length_children (linked_build spans)).symm
  parents_count := (sum_length_parents (linked_build spans)).symm

/-- **The views of a graph agree.** A batch has more than one group exactly if it is
refused, and then for its first trace and the first other one. A batch of one trace has
a graph that mirrors it, whatever identifiers come twice in it: a child is listed, with
its duration, below the last node that carries the identifier of its parent, and nowhere
else; that node is its only parent; children are in ascending order; each node is one of
root, orphan and child; and there are as many edges as children, and as parents. -/
theorem graph_views_agree (spans : List Span) :
    (1 < (groupByTrace spans).length ↔ ∃ error, ofSpans spans = .error error) ∧
    (∀ error, ofSpans spans = .error error ↔ ∃ first other, FirstOther spans first other ∧
      error = .mixedTraces first.traceId other.traceId) ∧
    (OneTrace spans → ∃ g, ofSpans spans = .ok g ∧ g.Mirrors spans) :=
  ⟨one_lt_length_groupByTrace_iff, fun _ => ofSpans_eq_error_iff,
    fun hone => ⟨build spans, ofSpans_of_oneTrace hone, mirrors_build spans⟩⟩

/-- A root and an orphan that carry the same identifier, a span that names it and comes
between them, and a span that names itself. -/
def sharedIdent : List Span :=
  [{ name := "first", startTime := 0, endTime := 9, clock := 0, process := 1, thread := 1,
     traceId := .ofNat 16 7, spanId := .ofNat 8 1, parentId := none },
   { name := "between", startTime := 2, endTime := 7, clock := 1, process := 1, thread := 1,
     traceId := .ofNat 16 7, spanId := .ofNat 8 2, parentId := some (.ofNat 8 1) },
   { name := "second", startTime := 1, endTime := 8, clock := 2, process := 1, thread := 1,
     traceId := .ofNat 16 7, spanId := .ofNat 8 1, parentId := some (.ofNat 8 9) },
   { name := "itself", startTime := 4, endTime := 3, clock := 3, process := 1, thread := 1,
     traceId := .ofNat 16 7, spanId := .ofNat 8 3, parentId := some (.ofNat 8 3) }]

/-- The span between the two is a child of the second, and the last one is its own
child, in no time. -/
theorem between_hangs_below_second :
    OneTrace sharedIdent ∧ (groupByTrace sharedIdent).length = 1 ∧
      ∃ g, ofSpans sharedIdent = .ok g ∧ (1, 5) ∈ g.children 2 ∧ g.parents 1 = [2] ∧
        (3, 0) ∈ g.children 3 ∧ 0 ∈ g.roots ∧ 2 ∈ g.orphans ∧
        (g.nodes.map fun node : Nat => (g.children node).length).sum = 2 := by
  have hone : OneTrace sharedIdent := ⟨.ofNat 16 7, by simp [sharedIdent]⟩
  obtain ⟨-, -, hgraph⟩ := graph_views_agree sharedIdent
  obtain ⟨g, hg, hviews⟩ := hgraph hone
  have hbetween : HangsBelow sharedIdent 2 1 := by
    refine ⟨_, _, rfl, rfl, rfl, fun later other hlater hother => ?_⟩
    obtain ⟨hlt, -⟩ := List.getElem?_eq_some_iff.1 hother
    obtain rfl : later = 3 := Nat.le_antisymm (Nat.le_of_lt_succ hlt) hlater
    obtain rfl := Option.some.inj hother
    decide
  have hitself : HangsBelow sharedIdent 3 3 := by
    refine ⟨_, _, rfl, rfl, rfl, fun later other hlater hother => ?_⟩
    obtain ⟨hlt, -⟩ := List.getElem?_eq_some_iff.1 hother
    exact absurd (Nat.le_of_lt_succ hlt) (Nat.not_le.2 hlater)
  have hedges : g.edgeCount = 2 := by
    obtain ⟨-, rfl⟩ := ofSpans_eq_ok_iff.1 hg
    cbv
  exact ⟨hone, by cbv, g, hg, (hviews.children_iff _ _ _).2 ⟨2, rfl, hbetween, _, rfl, rfl⟩,
    (hviews.parents_iff _ _).2 ⟨1, rfl, hbetween⟩,
    (hviews.children_iff _ _ _).2 ⟨3, rfl, hitself, _, rfl, rfl⟩,
    (hviews.roots_iff _).2 ⟨_, rfl, rfl⟩,
    (hviews.orphans_iff _).2 ⟨_, _, rfl, rfl, by decide⟩, hviews.children_count ▸ hedges⟩

end Graph
end CausalTrace
