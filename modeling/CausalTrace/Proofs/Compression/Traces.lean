/-
What expansion keeps of the spans of several traces.

* `Span.traced`: the trace and the operation of a span;
* `decompress_perm`: what comes back are the restored runs, in some order;
* `traced_standIns_perm_iff`: stand-ins are all of the trace of the first
  span of their run, so that they are of the traces of its spans exactly if
  those are of one;
* `decompress_keeps_operations`: **every operation comes back as often as it
  was**, and in its trace if no segment mixes traces.
-/
import CausalTrace.Proofs.Compression.SyntheticId
import CausalTrace.Proofs.Graph.Cycle

namespace CausalTrace

open CausalTrace.Graph (OneTrace)

variable {minRun tick : Int} {run : Run Span} {spans : List Span} {c : Compressed}

/-- The trace and the operation of a span. -/
def Span.traced (span : Span) : TraceId × Operation :=
  (span.traceId, span.operation)

/-! ### One run -/

/-- Stand-ins are all of the trace and of the operation of the first span. -/
lemma traced_standIns :
    (standIns tick run).toList.map Span.traced = List.replicate run.length run.first.traced := by
  rw [toList_standIns, List.map_map, List.map_eq_replicate_iff.2, List.length_range]
  exact fun i _ => rfl

/-- So they are of the traces of the run exactly if it is of one trace. -/
lemma traced_standIns_perm_iff
    (halike : ∀ span ∈ run.toList, span.operation = run.first.operation) :
    ((standIns tick run).toList.map Span.traced).Perm (run.toList.map Span.traced) ↔
      OneTrace run.toList := by
  rw [traced_standIns, List.perm_comm, List.perm_replicate, ← run.length_toList,
    List.map_eq_replicate_iff]
  constructor
  · intro hsame
    exact ⟨run.first.traceId, fun span hspan => congrArg Prod.fst (hsame span hspan)⟩
  · rintro ⟨id, hid⟩ span hspan
    have htrace : span.traceId = run.first.traceId :=
      (hid span hspan).trans (hid run.first List.mem_cons_self).symm
    exact Prod.ext htrace (halike span hspan)

/-! ### All runs -/

/-- What comes back are the restored runs, in some order. -/
lemma decompress_perm (h : compress minRun spans = .ok c) (tick : Int) :
    ∃ restored, c.decompress tick = .ok restored ∧
      restored.Perm (((operationRuns spans).map (restore minRun tick)).flatMap Run.toList) := by
  obtain ⟨-, rfl⟩ := eq_of_compress_eq_ok h
  refine ⟨_, ?_, (stablySorted_sortByClock _).perm.trans (flatMap_restore_perm minRun tick _)⟩
  rw [Compressed.decompress, mapM_expand_summary]
  rfl

/-- Restoring a run of one trace keeps the traces. -/
lemma traced_restore_perm (halike : ∀ span ∈ run.toList, span.operation = run.first.operation)
    (hone : minRun ≤ run.length → OneTrace run.toList) :
    ((restore minRun tick run).toList.map Span.traced).Perm (run.toList.map Span.traced) := by
  rw [restore]
  split
  · rename_i hlong
    exact (traced_standIns_perm_iff halike).2 (hone hlong)
  · exact List.Perm.refl _

/-- **Every operation comes back as often as it was**, of whichever traces the
spans are. The synthetic spans of a segment are as many as those of its block,
but all of the trace of the first of them: a run goes on whatever the traces of
its spans are. So they come back in their traces exactly if the block is of one
trace, and if all long blocks are, all spans do. -/
theorem decompress_keeps_operations (h : compress minRun spans = .ok c) (tick : Int) :
    let long := (operationBlocks (sortByClock spans)).filter fun block => minRun ≤ block.length
    ∃ synthetic restored, c.segments.mapM (Segment.expand tick) = .ok synthetic ∧
      c.decompress tick = .ok restored ∧
      (restored.map Span.operation).Perm (spans.map Span.operation) ∧
      List.Forall₂ (fun made block =>
          (∃ first, block.head? = some first ∧
            made.map Span.traced = List.replicate block.length first.traced) ∧
          ((made.map Span.traced).Perm (block.map Span.traced) ↔ OneTrace block))
        synthetic long ∧
      ((∀ block ∈ long, OneTrace block) →
        (restored.map Span.traced).Perm (spans.map Span.traced)) := by
  intro long
  obtain ⟨restored, hrestored, hperm⟩ := decompress_perm h tick
  obtain ⟨-, rfl⟩ := eq_of_compress_eq_ok h
  have hsorted := stablySorted_sortByClock spans
  have hspans := flatMap_operationRuns hsorted
  have halike : ∀ run ∈ operationRuns spans, ∀ span ∈ run.toList,
      span.operation = run.first.operation := fun _ => operation_eq_of_mem_operationRuns
  have hlong : (longRuns minRun (operationRuns spans)).map Run.toList = long := by
    rw [map_toList_longRuns, map_toList_operationRuns hsorted]
  refine ⟨_, restored, mapM_expand_summary tick _, hrestored, ?_, ?_, ?_⟩
  · refine (hperm.map _).trans ?_
    rw [map_flatMap_restore fun run hrun => map_operation_restore (halike run hrun), hspans]
    exact hsorted.perm.map _
  · rw [← hlong, List.forall₂_map_left_iff, List.forall₂_map_right_iff, List.forall₂_same]
    intro run hrun
    refine ⟨⟨run.first, rfl, ?_⟩, traced_standIns_perm_iff
      (halike run (List.mem_of_mem_filter hrun))⟩
    rw [traced_standIns, run.length_toList]
  · intro hone
    refine (hperm.map _).trans (List.Perm.trans ?_ (hsorted.perm.map _))
    rw [← hspans, List.flatMap_map, List.map_flatMap, List.map_flatMap]
    refine List.Perm.flatMap_left _ fun run hrun => traced_restore_perm (halike run hrun) ?_
    intro hmin
    refine hone _ (hlong ▸ List.mem_map_of_mem (List.mem_filter.2 ⟨hrun, decide_eq_true hmin⟩))

/-- The reads and the write of one trace come back in it. -/
theorem reads_before_write_keep_trace :
    ∃ c restored, compress 2 readsAroundWrite = .ok c ∧ c.decompress 1000 = .ok restored ∧
      (restored.map Span.traced).Perm (readsAroundWrite.map Span.traced) := by
  have hsort : sortByClock readsAroundWrite =
      [plainSpan 3 "read" 3 30 36, plainSpan 4 "read" 3 31 30, plainSpan 2 "write" 5 50 51,
        plainSpan 1 "read" 7 70 74] := by
    cbv
  have hlimit : ∀ span ∈ readsAroundWrite, span.duration ≤ durationLimit := by decide
  have hcompress := compress_eq_ok_of_forall (show (1 : Int) ≤ 2 by decide) hlimit
  obtain ⟨-, restored, -, hrestored, -, -, htraced⟩ := decompress_keeps_operations hcompress 1000
  refine ⟨_, restored, hcompress, hrestored, htraced ?_⟩
  rw [hsort]
  exact fun block hblock => ⟨.ofNat 16 7, by revert block; decide⟩

/-- Two reads, one after the other, of two traces. -/
def readsOfTwoTraces : List Span :=
  [plainSpan 1 "read" 0 0 100, { plainSpan 2 "read" 1 0 100 with traceId := .ofNat 16 8 }]

/-- They become one segment, and both come back in the trace of the first. -/
theorem reads_of_two_traces_merge :
    ∃ c restored, compress 2 readsOfTwoTraces = .ok c ∧ c.decompress 1000 = .ok restored ∧
      restored.map (·.traceId) = [.ofNat 16 7, .ofNat 16 7] ∧
      ¬ (restored.map Span.traced).Perm (readsOfTwoTraces.map Span.traced) := by
  have hruns : operationRuns readsOfTwoTraces =
      [⟨plainSpan 1 "read" 0 0 100,
        [{ plainSpan 2 "read" 1 0 100 with traceId := .ofNat 16 8 }]⟩] := by
    cbv
  have hlimit : ∀ span ∈ readsOfTwoTraces, span.duration ≤ durationLimit := by decide
  have hcompress := compress_eq_ok_of_forall (show (1 : Int) ≤ 2 by decide) hlimit
  rw [hruns] at hcompress
  obtain ⟨restored, hrestored, hperm⟩ := decompress_perm hcompress 1000
  rw [hruns] at hperm
  have htraces : restored.map (·.traceId) = [.ofNat 16 7, .ofNat 16 7] := by
    have hback : (restored.map (·.traceId)).Perm (List.replicate 2 (.ofNat 16 7)) := hperm.map _
    exact List.perm_replicate.1 hback
  refine ⟨_, restored, hcompress, hrestored, htraces, fun hsame => ?_⟩
  have hother : Ident.ofNat 16 8 ∈ restored.map (·.traceId) := by
    have hmem : (Ident.ofNat 16 8, (plainSpan 2 "read" 1 0 100).operation) ∈
        restored.map Span.traced := hsame.symm.subset (by decide)
    obtain ⟨span, hspan, heq⟩ := List.mem_map.1 hmem
    exact List.mem_map.2 ⟨span, hspan, congrArg Prod.fst heq⟩
  rw [htraces] at hother
  revert hother
  decide

end CausalTrace
