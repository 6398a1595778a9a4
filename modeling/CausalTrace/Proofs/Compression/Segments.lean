/-
What is compressed into segments and what is not.

* `compress_eq_ok`, `compress_eq_error`, `eq_of_compress_eq_ok`: compression
  fails exactly if a long run has a duration beyond the limit; else it
  summarises the long runs and keeps the short ones;
* `Segment.Describes`: a segment says of a block what can be read off it;
  `describes_summary`: the summary of a run does;
* `operationBlocks`: the maximal blocks of one operation, which are the
  runs;
* `compress_blocks`: **the long blocks become segments, in order, and
  nothing else changes**; no span is lost or counted twice.
-/
import CausalTrace.Proofs.Run
import CausalTrace.Proofs.StableSort
import Mathlib.Data.List.Permutation

namespace CausalTrace

variable {minRun : Int} {spans sorted : List Span}

/-! ### Summaries -/

/-- No duration of a run is beyond the limit. -/
def WithinLimit (run : Run Span) : Prop :=
  ∀ span ∈ run.toList, span.duration ≤ durationLimit

/-- A run is summarised if its durations are within the limit. -/
lemma ofRun_eq_ok {run : Run Span} (h : WithinLimit run) :
    Segment.ofRun run = .ok (Segment.summary run) := by
  rw [Segment.ofRun, if_neg]
  simpa [WithinLimit] using h

/-- A run with a longer duration overflows. -/
lemma ofRun_eq_error {run : Run Span} (h : ¬ WithinLimit run) :
    Segment.ofRun run = .error .duration := by
  rw [Segment.ofRun, if_pos]
  simpa [WithinLimit] using h

/-- Steps that all succeed succeed together. -/
lemma mapM_eq_ok {ε α β : Type} {f : α → Except ε β} {g : α → β} {xs : List α}
    (h : ∀ x ∈ xs, f x = .ok (g x)) : xs.mapM f = .ok (xs.map g) := by
  induction xs with
  | nil => rfl
  | cons x xs ih =>
    rw [List.mapM_cons, h x List.mem_cons_self, ih fun y hy => h y (List.mem_cons_of_mem _ hy)]
    rfl

/-- One run with a longer duration makes all overflow. -/
lemma mapM_ofRun_eq_error {runs : List (Run Span)} (h : ∃ run ∈ runs, ¬ WithinLimit run) :
    runs.mapM Segment.ofRun = .error .duration := by
  induction runs with
  | nil => simp at h
  | cons run runs ih =>
    rw [List.mapM_cons]
    by_cases hrun : WithinLimit run
    · obtain ⟨other, hother, hlimit⟩ := h
      rcases List.mem_cons.1 hother with rfl | hother
      · exact absurd hrun hlimit
      · rw [ofRun_eq_ok hrun, ih ⟨other, hother, hlimit⟩]
        rfl
    · rw [ofRun_eq_error hrun]
      rfl

/-- Compression summarises the long runs and keeps the short ones. -/
lemma compress_eq_ok (hmin : 1 ≤ minRun)
    (h : ∀ run ∈ longRuns minRun (operationRuns spans), WithinLimit run) :
    compress minRun spans = .ok
      { segments := (longRuns minRun (operationRuns spans)).map Segment.summary
        uncompressed := (shortRuns minRun (operationRuns spans)).flatMap Run.toList
        givenCount := spans.length } := by
  rw [compress, if_neg (Int.not_lt.2 hmin)]
  simp only [mapM_eq_ok fun run hrun => ofRun_eq_ok (h run hrun)]
  rfl

/-- A long run with a duration beyond the limit makes compression fail. -/
lemma compress_eq_error (hmin : 1 ≤ minRun)
    (h : ∃ run ∈ longRuns minRun (operationRuns spans), ¬ WithinLimit run) :
    compress minRun spans = .error (.overflow .duration) := by
  rw [compress, if_neg (Int.not_lt.2 hmin)]
  simp only [mapM_ofRun_eq_error h]
  rfl

/-- What is compressed is what the summaries of the long runs say and the
short ones, and nothing else. -/
lemma eq_of_compress_eq_ok {c : Compressed} (h : compress minRun spans = .ok c) :
    1 ≤ minRun ∧ c =
      { segments := (longRuns minRun (operationRuns spans)).map Segment.summary
        uncompressed := (shortRuns minRun (operationRuns spans)).flatMap Run.toList
        givenCount := spans.length } := by
  by_cases hmin : 1 ≤ minRun
  · by_cases hlimit : ∀ run ∈ longRuns minRun (operationRuns spans), WithinLimit run
    · rw [compress_eq_ok hmin hlimit] at h
      exact ⟨hmin, (Except.ok.inj h).symm⟩
    · have hbeyond : ∃ run ∈ longRuns minRun (operationRuns spans), ¬ WithinLimit run := by
        simpa using hlimit
      rw [compress_eq_error hmin hbeyond] at h
      cases h
  · rw [compress, if_pos (Int.not_le.1 hmin)] at h
    cases h

/-- What can be read off a block of spans is what a segment says of it. -/
structure Segment.Describes (segment : Segment) (block : List Span) : Prop where
  count_eq : segment.count = block.length
  operation_eq : ∀ span ∈ block, span.name = segment.operation ∧
    span.process = segment.process ∧ span.thread = segment.thread ∧
      span.attributes = segment.attributes
  first_clock : block.head?.map (·.clock) = some segment.startClock
  last_clock : block.getLast?.map (·.clock) = some segment.endClock
  first_trace : block.head?.map (·.traceId.bytes) = some segment.traceId
  shortest_le : ∀ span ∈ block, segment.shortest ≤ span.duration
  exists_shortest : ∃ span ∈ block, (span.duration : Int) = segment.shortest
  le_longest : ∀ span ∈ block, (span.duration : Int) ≤ segment.longest
  exists_longest : ∃ span ∈ block, (span.duration : Int) = segment.longest

/-- The shortest duration of a run is the least one. -/
lemma min?_durations (run : Run Span) :
    (run.toList.map Span.duration).min? =
      some ((run.toList.map Span.duration).foldl min run.first.duration) := by
  rw [Run.toList, List.map_cons, List.min?_cons', List.foldl_cons, Nat.min_self]

/-- The longest duration of a run is the greatest one. -/
lemma max?_durations (run : Run Span) :
    (run.toList.map Span.duration).max? =
      some ((run.toList.map Span.duration).foldl max run.first.duration) := by
  rw [Run.toList, List.map_cons, List.max?_cons', List.foldl_cons, Nat.max_self]

/-- The summary of a run of one operation describes it. -/
lemma describes_summary {run : Run Span}
    (h : ∀ span ∈ run.toList, span.operation = run.first.operation) :
    (Segment.summary run).Describes run.toList := by
  obtain ⟨hmin, hle⟩ := List.min?_eq_some_iff.1 (min?_durations run)
  obtain ⟨hmax, hge⟩ := List.max?_eq_some_iff.1 (max?_durations run)
  refine ⟨?_, ?_, rfl, ?_, rfl, ?_, ?_, ?_, ?_⟩
  · rw [run.length_toList]
    rfl
  · intro span hspan
    have heq := h span hspan
    simp only [Span.operation, Operation.mk.injEq] at heq
    exact heq
  · rw [Run.toList, List.getLast?_cons, ← List.getLastD_eq_getLast?]
    rfl
  · exact fun span hspan => Int.ofNat_le.2 (hle _ (List.mem_map_of_mem hspan))
  · obtain ⟨span, hspan, heq⟩ := List.mem_map.1 hmin
    exact ⟨span, hspan, congrArg Nat.cast heq⟩
  · exact fun span hspan => Int.ofNat_le.2 (hge _ (List.mem_map_of_mem hspan))
  · obtain ⟨span, hspan, heq⟩ := List.mem_map.1 hmax
    exact ⟨span, hspan, congrArg Nat.cast heq⟩

/-! ### Blocks -/

/-- The maximal blocks of consecutive spans of one operation. -/
def operationBlocks (sorted : List Span) : List (List Span) :=
  sorted.splitBy fun a b => a.operation = b.operation

/-- The spans in order are cut into the runs of one operation. -/
lemma operationRuns_eq_runsOn
    (hsorted : StablySorted (fun span : Span => span.clock) spans sorted) :
    operationRuns spans = runsOn Span.operation sorted := by
  rw [operationRuns, sortByClock_eq hsorted]
  exact cut_eq_runsOn Span.operation sorted

/-- The spans of a run have one operation. -/
lemma operation_eq_of_mem_operationRuns {run : Run Span} (hrun : run ∈ operationRuns spans) :
    ∀ span ∈ run.toList, span.operation = run.first.operation := by
  rw [operationRuns_eq_runsOn (stablySorted_sortByClock spans)] at hrun
  exact key_eq_of_mem_runsOn _ _ run hrun

/-- The runs of some spans are the blocks of the spans in order. -/
lemma map_toList_operationRuns
    (hsorted : StablySorted (fun span : Span => span.clock) spans sorted) :
    (operationRuns spans).map Run.toList = operationBlocks sorted := by
  rw [operationRuns_eq_runsOn hsorted]
  exact map_toList_runsOn Span.operation sorted

/-- The runs of some spans are the spans in order, cut in pieces. -/
lemma flatMap_operationRuns
    (hsorted : StablySorted (fun span : Span => span.clock) spans sorted) :
    (operationRuns spans).flatMap Run.toList = sorted := by
  rw [operationRuns_eq_runsOn hsorted, flatMap_runsOn]

/-- A run is a part of the spans in order. -/
lemma sublist_of_mem_operationRuns {run : Run Span} (hrun : run ∈ operationRuns spans) :
    run.toList.Sublist (sortByClock spans) := by
  rw [← flatMap_operationRuns (stablySorted_sortByClock spans), List.flatMap_def]
  exact List.sublist_flatten_of_mem (List.mem_map_of_mem hrun)

/-- Runs of spans within the limit are within the limit. -/
lemma withinLimit_of_mem_operationRuns {run : Run Span} (hrun : run ∈ operationRuns spans)
    (h : ∀ span ∈ spans, span.duration ≤ durationLimit) : WithinLimit run := fun span hspan =>
  h span ((stablySorted_sortByClock spans).perm.subset
    ((sublist_of_mem_operationRuns hrun).subset hspan))

/-- Spans within the limit are compressed. -/
lemma compress_eq_ok_of_forall (hmin : 1 ≤ minRun)
    (h : ∀ span ∈ spans, span.duration ≤ durationLimit) :
    compress minRun spans = .ok
      { segments := (longRuns minRun (operationRuns spans)).map Segment.summary
        uncompressed := (shortRuns minRun (operationRuns spans)).flatMap Run.toList
        givenCount := spans.length } :=
  compress_eq_ok hmin fun _ hrun =>
    withinLimit_of_mem_operationRuns (List.mem_of_mem_filter hrun) h

/-- The long runs are the long blocks. -/
lemma map_toList_longRuns (minRun : Int) (runs : List (Run Span)) :
    (longRuns minRun runs).map Run.toList =
      (runs.map Run.toList).filter fun block => minRun ≤ block.length := by
  simp only [longRuns, List.filter_map, Function.comp_def, Run.length_toList]

/-- The short runs are the short blocks. -/
lemma map_toList_shortRuns (minRun : Int) (runs : List (Run Span)) :
    (shortRuns minRun runs).map Run.toList =
      (runs.map Run.toList).filter fun block => block.length < minRun := by
  simp only [shortRuns, List.filter_map, Function.comp_def, Run.length_toList]

/-- Every run is long or short. -/
lemma long_append_short_perm (minRun : Int) (runs : List (Run Span)) :
    (longRuns minRun runs ++ shortRuns minRun runs).Perm runs := by
  have hshort : shortRuns minRun runs =
      runs.filter fun run => !decide (minRun ≤ (run.length : Int)) := by
    simp only [shortRuns, ← decide_not, Int.not_le]
  rw [hshort]
  exact List.filter_append_perm _ runs

/-- There are at least as many elements as runs. -/
lemma length_le_length_flatMap (runs : List (Run Span)) :
    runs.length ≤ (runs.flatMap Run.toList).length := by
  induction runs with
  | nil => exact Nat.le_refl 0
  | cons run runs ih =>
    rw [List.flatMap_cons, List.length_append, List.length_cons, Run.length_toList, Run.length]
    omega

/-- The counts of summaries add up to the number of spans. -/
lemma compressedSpans_summary (runs : List (Run Span)) (uncompressed : List Span) (given : Int) :
    Compressed.compressedSpans ⟨runs.map Segment.summary, uncompressed, given⟩ =
      (runs.flatMap Run.toList).length := by
  induction runs with
  | nil => rfl
  | cons run runs ih =>
    rw [Compressed.compressedSpans] at ih ⊢
    rw [List.map_cons, List.foldr_cons, ih, List.flatMap_cons, List.length_append,
      Run.length_toList]
    rfl

/-- Segments and kept spans stand for as many spans as were given. -/
lemma totalSpans_of_compress_eq_ok {c : Compressed} (h : compress minRun spans = .ok c) :
    c.totalSpans = spans.length := by
  obtain ⟨-, rfl⟩ := eq_of_compress_eq_ok h
  have hsorted := stablySorted_sortByClock spans
  have hperm := (long_append_short_perm minRun (operationRuns spans)).flatMap_right Run.toList
  rw [List.flatMap_append, flatMap_operationRuns hsorted] at hperm
  rw [Compressed.totalSpans, compressedSpans_summary, ← Int.natCast_add, ← List.length_append,
    (hperm.trans hsorted.perm).length_eq]

/-- **Compression keeps every span once**: with spans in the stable order of
their clocks, the maximal blocks of one operation that are long enough become
segments, in order, and each segment describes its block; the other blocks are
kept as they are. Only a duration beyond the limit in a long block makes it
fail. -/
theorem compress_blocks (hmin : 1 ≤ minRun)
    (hsorted : StablySorted (fun span : Span => span.clock) spans sorted) :
    let blocks := operationBlocks sorted
    let long := blocks.filter fun block => minRun ≤ block.length
    let short := blocks.filter fun block => block.length < minRun
    ((∃ block ∈ long, ∃ span ∈ block, durationLimit < span.duration) →
      compress minRun spans = .error (.overflow .duration)) ∧
    ((∀ block ∈ long, ∀ span ∈ block, span.duration ≤ durationLimit) →
      ∃ c, compress minRun spans = .ok c ∧
        List.Forall₂ Segment.Describes c.segments long ∧
        c.uncompressed = short.flatten ∧
        c.totalSpans = spans.length ∧
        c.givenCount = spans.length ∧
        c.segments.length + c.uncompressed.length ≤ spans.length) := by
  intro blocks long short
  have hblocks : (operationRuns spans).map Run.toList = blocks := map_toList_operationRuns hsorted
  have hlong : (longRuns minRun (operationRuns spans)).map Run.toList = long := by
    rw [map_toList_longRuns, hblocks]
  have hshort : (shortRuns minRun (operationRuns spans)).map Run.toList = short := by
    rw [map_toList_shortRuns, hblocks]
  rw [← hlong, ← hshort]
  constructor
  · rintro ⟨block, hblock, span, hspan, hduration⟩
    obtain ⟨run, hrun, rfl⟩ := List.mem_map.1 hblock
    exact compress_eq_error hmin ⟨run, hrun, fun h => Nat.not_lt.2 (h span hspan) hduration⟩
  · intro hlimit
    have hcount := ((long_append_short_perm minRun (operationRuns spans)).flatMap_right
      Run.toList).length_eq
    rw [List.flatMap_append, List.length_append, flatMap_operationRuns hsorted,
      hsorted.perm.length_eq] at hcount
    refine ⟨_, compress_eq_ok hmin fun run hrun => hlimit _ (List.mem_map_of_mem hrun),
      ?_, List.flatMap_def, ?_, rfl, ?_⟩
    · rw [List.forall₂_map_left_iff, List.forall₂_map_right_iff, List.forall₂_same]
      intro run hrun
      exact describes_summary (operation_eq_of_mem_operationRuns (List.mem_of_mem_filter hrun))
    · rw [Compressed.totalSpans, compressedSpans_summary, ← Int.natCast_add, hcount]
    · rw [List.length_map]
      calc (longRuns minRun (operationRuns spans)).length + _
          ≤ ((longRuns minRun (operationRuns spans)).flatMap Run.toList).length + _ :=
            Nat.add_le_add_right (length_le_length_flatMap _) _
        _ = spans.length := hcount

/-- A span of one trace and process that is not part of another. -/
def plainSpan (id : Nat) (name : String) (clock startTime endTime : Int) : Span :=
  { name, startTime, endTime, clock, process := 1, thread := 1,
    traceId := .ofNat 16 7, spanId := .ofNat 8 id, parentId := none }

/-- Three reads, two of them at one clock value, and a write before the
last. -/
def readsAroundWrite : List Span :=
  [plainSpan 1 "read" 7 70 74, plainSpan 2 "write" 5 50 51, plainSpan 3 "read" 3 30 36,
    plainSpan 4 "read" 3 31 30]

/-- The two reads before the write become a segment; the write and the read
after it stay as they are. -/
theorem reads_before_write_compressed :
    ∃ c segment, compress 2 readsAroundWrite = .ok c ∧ c.segments = [segment] ∧
      segment.Describes [plainSpan 3 "read" 3 30 36, plainSpan 4 "read" 3 31 30] ∧
      segment.shortest = 0 ∧ segment.longest = 6 ∧
      c.uncompressed = [plainSpan 2 "write" 5 50 51, plainSpan 1 "read" 7 70 74] ∧
      c.totalSpans = 4 := by
  have hsorted := stablySorted_sortByClock readsAroundWrite
  have hsort : sortByClock readsAroundWrite =
      [plainSpan 3 "read" 3 30 36, plainSpan 4 "read" 3 31 30, plainSpan 2 "write" 5 50 51,
        plainSpan 1 "read" 7 70 74] := by
    cbv
  rw [hsort] at hsorted
  obtain ⟨c, hc, hsegments, hrest, htotal, -⟩ :=
    (compress_blocks (show (1 : Int) ≤ 2 by decide) hsorted).2 (by decide)
  obtain ⟨segment, _, hdescribes, hnil, heq⟩ := List.forall₂_cons_right_iff.1 hsegments
  obtain rfl := List.forall₂_nil_right_iff.1 hnil
  have hshortest : segment.shortest = 0 := by
    have hle := hdescribes.shortest_le (plainSpan 4 "read" 3 31 30) (by simp)
    obtain ⟨span, -, hspan⟩ := hdescribes.exists_shortest
    exact Int.le_antisymm hle (hspan ▸ Int.natCast_nonneg _)
  have hlongest : segment.longest = 6 := by
    have hle := hdescribes.le_longest (plainSpan 3 "read" 3 30 36) (by simp)
    have hall : ∀ span ∈ [plainSpan 3 "read" 3 30 36, plainSpan 4 "read" 3 31 30],
        span.duration ≤ 6 := by
      decide
    obtain ⟨span, hmem, hspan⟩ := hdescribes.exists_longest
    exact Int.le_antisymm (hspan ▸ Int.ofNat_le.2 (hall span hmem)) hle
  exact ⟨c, segment, hc, heq, hdescribes, hshortest, hlongest, hrest, htotal⟩

end CausalTrace
