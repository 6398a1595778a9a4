/-
Batches told with other times, clocks and identifiers.

* `Relabeling`: all times moved by one amount, clock values replaced in their order,
  and identifiers renamed one to one; `Relabeling.span`: a span told so;
* `Relabeling.duration_span`, `Relabeling.timeTogether_map`: it takes the same time;
* `Relabeling.sortByClock_map`: **spans come in the same order**, and so in the same
  runs: `Relabeling.operationRuns_map`;
* `Relabeling.compress_map`: so compression comes to the same, told with other
  clocks.
-/
import CausalTrace.Proofs.Compression.Segments
import CausalTrace.Proofs.Run.Nested

namespace CausalTrace

/-- Other times, clocks and identifiers for a batch: all times are moved by one
amount, clock values keep their order, and no two identifiers become the same. -/
structure Relabeling where
  shift : Int
  clock : Int → Int
  rename : SpanId → SpanId
  clock_lt : ∀ {a b : Int}, a < b → clock a < clock b
  rename_injective : Function.Injective rename

namespace Relabeling

variable (r : Relabeling)

/-! ### Spans -/

/-- A span told with other times, clocks and identifiers. -/
def span (span : Span) : Span :=
  { span with
    startTime := span.startTime + r.shift
    endTime := span.endTime + r.shift
    clock := r.clock span.clock
    spanId := r.rename span.spanId
    parentId := span.parentId.map r.rename }

@[simp] lemma name_span (span : Span) : (r.span span).name = span.name := rfl

@[simp] lemma process_span (span : Span) : (r.span span).process = span.process := rfl

@[simp] lemma thread_span (span : Span) : (r.span span).thread = span.thread := rfl

@[simp] lemma attributes_span (span : Span) : (r.span span).attributes = span.attributes := rfl

@[simp] lemma traceId_span (span : Span) : (r.span span).traceId = span.traceId := rfl

@[simp] lemma clock_span (span : Span) : (r.span span).clock = r.clock span.clock := rfl

@[simp] lemma parentId_span (span : Span) :
    (r.span span).parentId = span.parentId.map r.rename := rfl

/-- A span takes as long as before. -/
@[simp] lemma duration_span (span : Span) : (r.span span).duration = span.duration := by
  have hlength : span.endTime + r.shift - (span.startTime + r.shift) =
      span.endTime - span.startTime := by omega
  exact congrArg Int.toNat hlength

/-- Spans take as long together as before. -/
@[simp] lemma timeTogether_map (spans : List Span) :
    Span.timeTogether (spans.map r.span) = Span.timeTogether spans := by
  rw [Span.timeTogether, List.foldr_map]
  simp only [duration_span]
  rfl

/-! ### Runs -/

/-- **Spans come in the same order.** -/
lemma sortByClock_map (spans : List Span) :
    sortByClock (spans.map r.span) = (sortByClock spans).map r.span :=
  sortByClock_eq (StablySorted.map ((stablySorted_sortByClock spans).comp r.clock_lt))

/-- So they come in the same runs. -/
lemma operationRuns_map (spans : List Span) :
    operationRuns (spans.map r.span) = (operationRuns spans).map (Run.map r.span) := by
  rw [operationRuns_eq_runsOn (stablySorted_sortByClock _), sortByClock_map, runsOn_map,
    operationRuns_eq_runsOn (stablySorted_sortByClock spans)]
  rfl

/-- The same runs are long. -/
lemma longRuns_map (minRun : Int) (runs : List (Run Span)) :
    longRuns minRun (runs.map (Run.map r.span)) = (longRuns minRun runs).map (Run.map r.span) := by
  rw [longRuns, List.filter_map]
  simp [longRuns, Function.comp_def]

/-- The same runs are short. -/
lemma shortRuns_map (minRun : Int) (runs : List (Run Span)) :
    shortRuns minRun (runs.map (Run.map r.span)) =
      (shortRuns minRun runs).map (Run.map r.span) := by
  rw [shortRuns, List.filter_map]
  simp [shortRuns, Function.comp_def]

/-! ### Compression -/

/-- A segment told with other clocks. -/
def segment (segment : Segment) : Segment :=
  { segment with
    startClock := r.clock segment.startClock
    endClock := r.clock segment.endClock }

/-- The summary of a run is the same, told with other clocks. -/
lemma summary_map (run : Run Span) :
    Segment.summary (run.map r.span) = r.segment (Segment.summary run) := by
  have hdurations : (run.map r.span).toList.map Span.duration = run.toList.map Span.duration := by
    rw [Run.toList_map, List.map_map]
    exact List.map_congr_left fun span _ => r.duration_span span
  have htime : Span.timeTogether (run.map r.span).toList = Span.timeTogether run.toList := by
    rw [Run.toList_map, timeTogether_map]
  have hfirst : (run.map r.span).first = r.span run.first := rfl
  simp only [Segment.summary, segment, hdurations, htime, hfirst, Run.length_map, Run.last_map,
    name_span, process_span, thread_span, attributes_span, traceId_span, clock_span,
    duration_span]

/-- A run can be summed up or not, as before. -/
lemma ofRun_map (run : Run Span) :
    Segment.ofRun (run.map r.span) = r.segment <$> Segment.ofRun run := by
  have hlimit : ((run.map r.span).toList.any fun span => durationLimit < span.duration) =
      run.toList.any fun span => durationLimit < span.duration := by
    simp [Run.toList_map, List.any_map, Function.comp_def]
  rw [Segment.ofRun, Segment.ofRun, hlimit, summary_map]
  split <;> rfl

/-- Runs become the same segments, or one of them cannot be summed up. -/
lemma mapM_ofRun_map (runs : List (Run Span)) :
    (runs.map (Run.map r.span)).mapM Segment.ofRun =
      List.map r.segment <$> runs.mapM Segment.ofRun := by
  induction runs with
  | nil => rfl
  | cons run runs ih =>
    rw [List.map_cons, List.mapM_cons, List.mapM_cons, ofRun_map, ih]
    cases Segment.ofRun run with
    | error overflow => rfl
    | ok segment => cases runs.mapM Segment.ofRun <;> rfl

/-- What is compressed, told with other times, clocks and identifiers. -/
def compressed (c : Compressed) : Compressed :=
  { c with
    segments := c.segments.map r.segment
    uncompressed := c.uncompressed.map r.span }

/-- **Compression comes to the same**, or fails in the same way. -/
lemma compress_map (minRun : Int) (spans : List Span) :
    compress minRun (spans.map r.span) = r.compressed <$> compress minRun spans := by
  rw [compress, compress]
  split
  · rfl
  · simp only [operationRuns_map, longRuns_map, shortRuns_map, mapM_ofRun_map, List.length_map]
    cases (longRuns minRun (operationRuns spans)).mapM Segment.ofRun with
    | error overflow => rfl
    | ok segments =>
      have hshort :
          ((shortRuns minRun (operationRuns spans)).map (Run.map r.span)).flatMap Run.toList =
            ((shortRuns minRun (operationRuns spans)).flatMap Run.toList).map r.span := by
        simp only [List.flatMap_map, List.map_flatMap, Run.toList_map]
      rw [hshort]
      rfl

end Relabeling
end CausalTrace
