/-
Batches in another order.

* `positionIn`: where the span of a node comes in another order;
  `getElem?_positionIn`, `positionIn_eq`: there it is, and nowhere else;
* `index_eq_some_iff_of_nodup`, `index_of_perm`: with different identifiers, one
  leads to the one node that carries it, and so to the same span in any order;
* `renumbered_of_perm`: **the graph of a batch in another order is the same graph
  with its nodes renumbered.**
-/
import CausalTrace.Proofs.Graph.Renumber
import Mathlib.Data.List.Perm.Subperm

namespace CausalTrace
namespace Graph

variable {spans others : List Span} {id : SpanId} {node other : Nat}

/-- Where the span of a node comes in another order of the batch. -/
def positionIn (spans others : List Span) (node : Nat) : Nat :=
  (spans[node]?).elim 0 fun span => others.idxOf span

/-- The span of a node is there. -/
lemma getElem?_positionIn (hperm : others.Perm spans) (hnode : node < spans.length) :
    others[positionIn spans others node]? = spans[node]? := by
  have hspan : spans[node]? = some spans[node] := List.getElem?_eq_getElem hnode
  have hmem : spans[node] ∈ others := hperm.symm.subset (List.getElem_mem hnode)
  rw [positionIn, hspan, Option.elim_some, List.getElem?_idxOf hmem]

/-- It is nowhere else. -/
lemma positionIn_eq (hnodup : others.Nodup) (hnode : node < spans.length)
    (h : others[other]? = spans[node]?) : positionIn spans others node = other := by
  have hspan : spans[node]? = some spans[node] := List.getElem?_eq_getElem hnode
  obtain ⟨hother, heq⟩ := List.getElem?_eq_some_iff.1 (h.trans hspan)
  rw [positionIn, hspan, Option.elim_some, ← heq]
  exact hnodup.idxOf_getElem other hother

/-- Every node gets a number, and no two get the same one. -/
lemma map_positionIn_perm (hnodup : spans.Nodup) (hperm : others.Perm spans) :
    ((List.range spans.length).map (positionIn spans others)).Perm (List.range others.length) := by
  have hdistinct : ((List.range spans.length).map (positionIn spans others)).Nodup := by
    refine List.Nodup.map_on (fun a ha b hb heq => ?_) List.nodup_range
    rw [List.mem_range] at ha hb
    have hspan := getElem?_positionIn hperm ha
    rw [heq, getElem?_positionIn hperm hb] at hspan
    exact (List.getElem?_inj ha hnodup).1 hspan.symm
  have hsub : ∀ other ∈ (List.range spans.length).map (positionIn spans others),
      other ∈ List.range others.length := by
    intro other hother
    obtain ⟨node, hnode, rfl⟩ := List.mem_map.1 hother
    have hspan := getElem?_positionIn hperm (List.mem_range.1 hnode)
    rw [List.getElem?_eq_getElem (List.mem_range.1 hnode)] at hspan
    exact List.mem_range.2 (List.getElem?_eq_some_iff.1 hspan).1
  exact (hdistinct.subperm hsub).perm_of_length_le (by simp [hperm.length_eq])

/-- With different identifiers, one leads to the one node that carries it. -/
lemma index_eq_some_iff_of_nodup (hids : (spans.map (·.spanId)).Nodup) :
    (index spans)[id]? = some node ↔ (spans.map (·.spanId))[node]? = some id := by
  rw [index_eq_some_iff]
  refine and_iff_left_of_imp fun hnode later hlt hlater => ?_
  obtain ⟨hbound, heq⟩ := List.getElem?_eq_some_iff.1 hnode
  obtain ⟨hbound', heq'⟩ := List.getElem?_eq_some_iff.1 hlater
  exact Nat.ne_of_lt hlt (hids.getElem_inj_iff.1 (heq.trans heq'.symm))

/-- An identifier leads to the same span. -/
lemma index_of_perm (hids : (spans.map (·.spanId)).Nodup) (hperm : others.Perm spans) :
    (index others)[id]? = ((index spans)[id]?).map (positionIn spans others) := by
  have hids' : (others.map (·.spanId)).Nodup := (hperm.map _).nodup_iff.2 hids
  refine Option.ext fun other => ?_
  rw [Option.map_eq_some_iff, index_eq_some_iff_of_nodup hids']
  simp only [index_eq_some_iff_of_nodup hids, List.getElem?_map, Option.map_eq_some_iff]
  constructor
  · rintro ⟨span, hspan, rfl⟩
    obtain ⟨node, hnode, heq⟩ := List.getElem_of_mem (hperm.subset (List.mem_of_getElem? hspan))
    have hnode? : spans[node]? = some span := List.getElem?_eq_some_iff.2 ⟨hnode, heq⟩
    exact ⟨node, ⟨span, hnode?, rfl⟩,
      positionIn_eq (List.Nodup.of_map _ hids') hnode (hspan.trans hnode?.symm)⟩
  · rintro ⟨node, ⟨span, hspan, rfl⟩, rfl⟩
    obtain ⟨hnode, -⟩ := List.getElem?_eq_some_iff.1 hspan
    exact ⟨span, (getElem?_positionIn hperm hnode).trans hspan, rfl⟩

/-- Renumbered nodes have the same spans. -/
lemma getElem?_spans_positionIn (hperm : others.Perm spans) (hnode : node < (build spans).size) :
    (build others).spans[positionIn spans others node]? = (build spans).spans[node]? := by
  have hlength : node < spans.length := size_build spans ▸ hnode
  simpa using getElem?_positionIn hperm hlength

/-- **The graph of a batch in another order is the same graph with its nodes
renumbered**, as long as no two spans have one identifier. -/
lemma renumbered_of_perm (hids : (spans.map (·.spanId)).Nodup) (hperm : others.Perm spans) :
    Renumbered (positionIn spans others) (build spans) (build others) := by
  have hspans : ∀ node < (build spans).size,
      (build others).spans[positionIn spans others node]? = (build spans).spans[node]? :=
    fun _ hnode => getElem?_spans_positionIn hperm hnode
  refine ⟨?_, fun node hnode => ?_, fun node hnode => ?_, fun node hnode => ?_⟩
  · rw [nodes, nodes, size_build, size_build]
    exact map_positionIn_perm (List.Nodup.of_map _ hids) hperm
  · obtain ⟨span, hspan⟩ : ∃ span, (build spans).spans[node]? = some span :=
      ⟨_, Array.getElem?_eq_getElem hnode⟩
    rw [origin, origin, hspans node hnode, hspan, Option.elim_some, Option.elim_some,
      lastNode_build, lastNode_build, originOf, originOf]
    cases span.parentId with
    | none => rfl
    | some parent =>
      simp only [index_of_perm hids hperm]
      cases (index spans)[parent]? <;> rfl
  · rw [duration, duration, hspans node hnode]
  · rw [name, name, hspans node hnode]

end Graph
end CausalTrace
