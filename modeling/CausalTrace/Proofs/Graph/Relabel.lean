/-
The graph of a batch told with other times, clocks and identifiers.

* `Relabeling.index_map`: an identifier leads to the node that its new name leads to;
* `Relabeling.renumbered_build`: **it is the same graph**, with the same numbers; so
  the critical path is the same: `Relabeling.criticalPath_build`;
* `Relabeling.ofSpans_map`: a batch has such a graph, or none for the same reason;
* `Relabeling.totalDuration_build`: the whole batch takes as long.
-/
import CausalTrace.Proofs.CriticalPath.Renumber
import CausalTrace.Proofs.Relabeling

namespace CausalTrace
namespace Relabeling

open CausalTrace.Graph (build index ofSpans originOf Renumbered linked_build)

variable (r : Relabeling)

/-! ### Nodes -/

/-- A new name leads to the node that the identifier leads to: no other identifier
has that name. -/
lemma index_map (spans : List Span) (id : SpanId) :
    (index (spans.map r.span))[r.rename id]? = (index spans)[id]? := by
  have hname : ∀ node : Nat, ((spans.map r.span).map (·.spanId))[node]? = some (r.rename id) ↔
      (spans.map (·.spanId))[node]? = some id := by
    intro node
    have hids : (spans.map r.span).map (·.spanId) = (spans.map (·.spanId)).map r.rename := by
      rw [List.map_map, List.map_map]
      rfl
    rw [hids, List.getElem?_map, Option.map_eq_some_iff]
    constructor
    · rintro ⟨other, hother, heq⟩
      exact r.rename_injective heq ▸ hother
    · exact fun hid => ⟨id, hid, rfl⟩
  refine Option.ext fun node => ?_
  simp only [Graph.index_eq_some_iff, ne_eq, hname]

/-- A span hangs below the same node, or nowhere for the same reason. -/
lemma originOf_span (spans : List Span) (span : Span) :
    originOf (index (spans.map r.span)) (r.span span) = originOf (index spans) span := by
  rw [originOf, originOf, parentId_span]
  cases span.parentId with
  | none => rfl
  | some parent => simp only [Option.map_some, r.index_map]

/-- A node stands for the same span, told anew. -/
lemma getElem?_spans_build (spans : List Span) (node : Nat) :
    (build (spans.map r.span)).spans[node]? = ((build spans).spans[node]?).map r.span := by
  simp

lemma span?_build (spans : List Span) (node : Int) :
    (build (spans.map r.span)).span? node = ((build spans).span? node).map r.span := by
  cases node with
  | ofNat node => exact r.getElem?_spans_build spans node
  | negSucc node => rfl

/-! ### Graphs -/

/-- **The graph is the same**, with the same numbers. -/
lemma renumbered_build (spans : List Span) :
    Renumbered id (build spans) (build (spans.map r.span)) := by
  refine ⟨?_, fun node _ => ?_, fun node _ => ?_, fun node _ => ?_⟩
  · rw [List.map_id, Graph.nodes, Graph.nodes, Graph.size_build, Graph.size_build, List.length_map]
  · rw [id, Graph.origin, Graph.origin, r.getElem?_spans_build]
    cases (build spans).spans[node]? with
    | none => rfl
    | some span =>
      simp only [Option.map_some, Option.elim_some, Graph.lastNode_build, r.originOf_span]
      cases originOf (index spans) span <;> rfl
  · rw [id, Graph.duration, Graph.duration, r.getElem?_spans_build]
    cases (build spans).spans[node]? with
    | none => rfl
    | some span => exact r.duration_span span
  · rw [id, Graph.name, Graph.name, r.getElem?_spans_build]
    cases (build spans).spans[node]? <;> rfl

/-- So the critical path is the same, or there is none for the same reason. -/
lemma criticalPath_build (spans : List Span) :
    (build (spans.map r.span)).criticalPath = (build spans).criticalPath :=
  (r.renumbered_build spans).criticalPath_eq (linked_build spans) (linked_build _)

/-- A batch has a graph, or none for the same reason: the traces stay as they are. -/
lemma ofSpans_map (spans : List Span) :
    ofSpans (spans.map r.span) = (fun _ => build (spans.map r.span)) <$> ofSpans spans := by
  cases spans with
  | nil => rfl
  | cons first rest =>
    have hother : ((rest.map r.span).find? fun span => span.traceId ≠ first.traceId) =
        (rest.find? fun span => span.traceId ≠ first.traceId).map r.span := by
      rw [List.find?_map]
      rfl
    rw [List.map_cons, ofSpans, ofSpans, traceId_span, hother]
    cases rest.find? fun span => span.traceId ≠ first.traceId <;> rfl

/-! ### Time -/

/-- The earliest time is moved with all others. -/
lemma min?_map_add (times : List Int) (shift : Int) :
    (times.map (· + shift)).min? = times.min?.map (· + shift) := by
  cases times with
  | nil => rfl
  | cons time times =>
    rw [List.map_cons, List.min?_cons', List.min?_cons', List.foldl_map, Option.map_some]
    exact congrArg some (List.foldl_hom (· + shift) fun a b => by omega)

/-- The latest time is moved with all others. -/
lemma max?_map_add (times : List Int) (shift : Int) :
    (times.map (· + shift)).max? = times.max?.map (· + shift) := by
  cases times with
  | nil => rfl
  | cons time times =>
    rw [List.map_cons, List.max?_cons', List.max?_cons', List.foldl_map, Option.map_some]
    exact congrArg some (List.foldl_hom (· + shift) fun a b => by omega)

/-- The whole batch takes as long. -/
lemma totalDuration_build (spans : List Span) :
    (build (spans.map r.span)).totalDuration = (build spans).totalDuration := by
  have hstart : ((spans.map r.span).map (·.startTime)).min? =
      (spans.map (·.startTime)).min?.map (· + r.shift) := by
    rw [← min?_map_add, List.map_map, List.map_map]
    rfl
  have hstop : ((spans.map r.span).map (·.endTime)).max? =
      (spans.map (·.endTime)).max?.map (· + r.shift) := by
    rw [← max?_map_add, List.map_map, List.map_map]
    rfl
  simp only [Graph.totalDuration, Graph.spans_build, List.toList_toArray, hstart, hstop]
  cases (spans.map (·.startTime)).min? with
  | none => rfl
  | some start =>
    cases (spans.map (·.endTime)).max? with
    | none => rfl
    | some stop =>
      simp only [Option.map_some]
      omega

end Relabeling
end CausalTrace
