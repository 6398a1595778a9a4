/-
Batches in which parents come before their children.

* `ParentsFirst`: a parent is a span further in front, or none of the batch;
* `ParentsFirst.lt_of_edge`: then **every edge leads forward**, and so the
  graph is acyclic: `ParentsFirst.isAcyclic_build`.
-/
import CausalTrace.Proofs.Graph.Origin
import CausalTrace.Proofs.Graph.Search
import Mathlib.Data.List.Nodup

namespace CausalTrace
namespace Graph

variable {g : Graph} {spans : List Span} {parent child : Nat}

/-- A graph whose edges all lead forward is acyclic. -/
lemma isAcyclic_of_lt_of_edge (hg : g.Linked)
    (h : ∀ {parent child}, g.Edge parent child → parent < child) : g.isAcyclic = true := by
  have hpath : ∀ {first last}, Relation.TransGen g.Edge first last → first < last := by
    intro first last hpath
    induction hpath with
    | single hedge => exact h hedge
    | tail _ hedge ih => exact Nat.lt_trans ih (h hedge)
  rw [isAcyclic_iff hg]
  rintro ⟨node, hcycle⟩
  exact Nat.lt_irrefl _ (hpath hcycle)

/-- The parent of every span is one further in front, or no span of the
batch. -/
def ParentsFirst (spans : List Span) : Prop :=
  ∀ node span id, spans[node]? = some span → span.parentId = some id →
    id ∈ (spans.take node).map (·.spanId) ∨ id ∉ spans.map (·.spanId)

/-- **Every edge leads forward.** -/
lemma ParentsFirst.lt_of_edge (h : ParentsFirst spans) (hids : (spans.map (·.spanId)).Nodup)
    (hedge : (build spans).Edge parent child) : parent < child := by
  obtain ⟨above, below, habove, hbelow, hparent, -⟩ := edge_build_iff.1 hedge
  have hid : (spans.map (·.spanId))[parent]? = some above.spanId := by
    rw [List.getElem?_map, habove, Option.map_some]
  rcases h child below above.spanId hbelow hparent with hearlier | hnone
  · rw [List.map_take, List.mem_take_iff_getElem] at hearlier
    obtain ⟨earlier, hbound, heq⟩ := hearlier
    obtain ⟨hlt, heq'⟩ := List.getElem?_eq_some_iff.1 hid
    rw [← hids.getElem_inj_iff.1 (heq.trans heq'.symm)]
    omega
  · exact absurd (List.mem_of_getElem? hid) hnone

/-- So the graph is acyclic. -/
lemma ParentsFirst.isAcyclic_build (h : ParentsFirst spans)
    (hids : (spans.map (·.spanId)).Nodup) : (build spans).isAcyclic = true :=
  isAcyclic_of_lt_of_edge (linked_build spans) (h.lt_of_edge hids)

end Graph
end CausalTrace
