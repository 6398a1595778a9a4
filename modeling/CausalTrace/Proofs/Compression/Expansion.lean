/-
What a segment expands into.

* `Segment.Makes`: what the synthetic span at a position of a segment is like;
  `exists_synthetic`: a segment of a trace has one at every position;
* `nodup_syntheticId_iff`: the identifiers of consecutive clocks are different
  exactly up to one full turn;
* `Segment.CountsUp`: spans count up from the start of a segment;
  `countsUp_map`, `exists_expand`: those that it expands into do;
* `timeTogether_lt_standIns`: rounding the average down loses less than one unit of
  time for each span;
* `segments_count_up`: **every segment of a trace expands into spans that count up
  from its start**, and the segment of a block into spans that take nearly as long.
-/
import CausalTrace.Proofs.Compression.SyntheticId
import Mathlib.Data.Int.ModEq

namespace CausalTrace

-- Powers are those of the natural numbers, whichever others are known.
attribute [local instance (high)] instPowNat

variable {minRun tick : Int} {segment : Segment} {run : Run Span} {position : Nat} {span : Span}

/-! ### Synthetic spans -/

/-- What the synthetic span at a position of a segment is like. -/
structure Segment.Makes (segment : Segment) (position : Nat) (span : Span) : Prop where
  clock_eq : span.clock = segment.startClock + position
  spanId_eq : span.spanId.bytes = syntheticId span.clock
  parentId_eq : span.parentId = none
  duration_eq : (span.duration : Int) = max segment.average 0

/-- The clock counts the position, and the identifier and the times follow from it. -/
lemma makes_of_synthetic (h : segment.synthetic tick position = .ok span) :
    segment.Makes position span := by
  obtain ⟨-, hid, hparent, hfields⟩ := Span.create_eq_ok_iff.1 h
  have hclock : span.clock = segment.startClock + position := congrArg SpanFields.clock hfields
  have hstart : span.startTime = (segment.startClock + position) * tick :=
    congrArg SpanFields.startTime hfields
  have hend : span.endTime = (segment.startClock + position) * tick + segment.average :=
    congrArg SpanFields.endTime hfields
  refine ⟨hclock, by rw [hclock, ← hid], (Option.map_eq_none_iff.1 hparent.symm), ?_⟩
  rw [natCast_duration, hstart, hend, Int.add_comm, Int.add_sub_cancel]

/-- A segment of a trace has a synthetic span at every position, whatever its clock
is there: all identifiers made of clocks have the right size. -/
lemma exists_synthetic (htrace : segment.traceId.length = 16) (tick : Int) (position : Nat) :
    ∃ span, segment.synthetic tick position = .ok span := by
  have hsize : (syntheticId (segment.startClock + position)).length = 8 := by
    rw [syntheticId, Ident.bytesOfNat, List.length_reverse, List.length_map, List.length_range]
  exact ⟨⟨_, ⟨_, htrace⟩, ⟨_, hsize⟩, none⟩, Span.create_eq_ok_iff.2 ⟨rfl, rfl, rfl, rfl⟩⟩

/-! ### Identifiers of consecutive clocks -/

/-- The identifiers of consecutive clocks are different exactly up to one full turn,
wherever they start: also where they cross a multiple of a turn. -/
lemma nodup_syntheticId_iff (start : Int) (count : Nat) :
    ((List.range count).map fun i : Nat => syntheticId (start + i)).Nodup ↔
      count ≤ syntheticIds := by
  have hinjective : ((List.range count).map fun i : Nat => syntheticId (start + i)).Nodup ↔
      ∀ i < count, ∀ j < count, syntheticId (start + i) = syntheticId (start + j) → i = j := by
    simp only [List.nodup_map_iff_inj_on List.nodup_range, List.mem_range]
  rw [hinjective]
  constructor
  · intro hinj
    by_contra hlt
    -- one full turn after the start, the identifier of the start comes again
    have hagain : syntheticId (start + (0 : Nat)) = syntheticId (start + syntheticIds) := by
      rw [syntheticId_eq_iff, Int.add_emod_right, Int.natCast_zero, Int.add_zero]
    have hzero := hinj 0 (by omega) syntheticIds (by omega) hagain
    exact absurd hzero (by decide)
  · intro hle i hi j hj heq
    have hmod : start + i ≡ start + j [ZMOD syntheticIds] := syntheticId_eq_iff.1 heq
    have hcancel : (i : Int) ≡ j [ZMOD syntheticIds] := Int.ModEq.add_left_cancel' start hmod
    exact (Int.natCast_modEq_iff.1 hcancel).eq_of_lt_of_lt (by omega) (by omega)

/-! ### Expanding -/

/-- Spans count up from the start of a segment: they are as many as it counts, and
their clocks are consecutive. None is part of another, all of them take the average
time, and their identifiers are never zero, and different for up to one full turn of
clocks. -/
structure Segment.CountsUp (segment : Segment) (made : List Span) : Prop where
  length_eq : (made.length : Int) = max segment.count 0
  clocks_eq : made.map (·.clock) =
    (List.range made.length).map fun i : Nat => segment.startClock + i
  parentId_eq : ∀ span ∈ made, span.parentId = none
  duration_eq : ∀ span ∈ made, (span.duration : Int) = max segment.average 0
  allZero_eq : ∀ span ∈ made, allZero span.spanId.bytes = false
  nodup_iff : (made.map (·.spanId)).Nodup ↔ segment.count ≤ syntheticIds

/-- The spans at all positions of a segment count up from its start. -/
lemma countsUp_map {make : Nat → Span} (hmake : ∀ i, segment.Makes i (make i)) :
    segment.CountsUp ((List.range segment.count.toNat).map make) where
  length_eq := by rw [List.length_map, List.length_range, Int.toNat_eq_max]
  clocks_eq := by
    rw [List.length_map, List.length_range, List.map_map]
    exact List.map_congr_left fun i _ => (hmake i).clock_eq
  parentId_eq := List.forall_mem_map.2 fun i _ => (hmake i).parentId_eq
  duration_eq := List.forall_mem_map.2 fun i _ => (hmake i).duration_eq
  allZero_eq := List.forall_mem_map.2 fun i _ => by rw [(hmake i).spanId_eq, allZero_syntheticId]
  nodup_iff := by
    have hbytes : Function.Injective fun id : SpanId => id.bytes := fun a b => Ident.bytes_inj.1
    have hids : ((List.range segment.count.toNat).map make).map (·.spanId.bytes) =
        (List.range segment.count.toNat).map fun i : Nat =>
          syntheticId (segment.startClock + i) := by
      rw [List.map_map]
      refine List.map_congr_left fun i _ => ?_
      rw [← (hmake i).clock_eq]
      exact (hmake i).spanId_eq
    calc (((List.range segment.count.toNat).map make).map (·.spanId)).Nodup
        ↔ (((List.range segment.count.toNat).map make).map (·.spanId.bytes)).Nodup := by
          rw [← List.nodup_map_iff hbytes, List.map_map]
          rfl
      _ ↔ segment.count.toNat ≤ syntheticIds := by rw [hids, nodup_syntheticId_iff]
      _ ↔ segment.count ≤ syntheticIds := Int.toNat_le

/-- A segment of a trace always expands, and into spans that count up from its start. -/
lemma exists_expand (htrace : segment.traceId.length = 16) (tick : Int) :
    ∃ made, segment.expand tick = .ok made ∧ segment.CountsUp made := by
  choose make hmake using exists_synthetic htrace tick
  exact ⟨_, mapM_eq_ok fun i _ => hmake i, countsUp_map fun i => makes_of_synthetic (hmake i)⟩

/-! ### The segment of a run -/

/-- Rounding the average down loses less than one unit of time for each span. -/
lemma timeTogether_lt_standIns (h : Span.timeTogether run.toList ≤ durationLimit) :
    Span.timeTogether run.toList < Span.timeTogether (standIns tick run).toList + run.length := by
  rw [timeTogether_standIns h, ← Nat.mul_add_one]
  exact Nat.lt_mul_div_succ _ (Nat.succ_pos _)

/-- **Segments expand into spans that count up.** Every segment of a trace expands,
whatever its start, its average and the ticks are. The spans are as many as it counts,
with consecutive clocks from its start on; they are no part of others, and all take the
average time. Their identifiers are never zero, and they are different exactly if there
are at most as many as there are such identifiers, also where the clocks cross a
multiple of that number. The segment of a block whose time is within the limit expands
into spans that take no more time than the block, and less than one unit for each of
them is lost. -/
theorem segments_count_up (tick : Int) :
    (∀ segment : Segment, segment.traceId.length = 16 →
      ∃ made, segment.expand tick = .ok made ∧ segment.CountsUp made) ∧
    ∀ minRun spans c, compress minRun spans = .ok c →
      List.Forall₂ (fun segment block => Span.timeTogether block ≤ durationLimit →
          ∃ made, segment.expand tick = .ok made ∧
            Span.timeTogether made ≤ Span.timeTogether block ∧
            (Span.timeTogether block : Int) < Span.timeTogether made + segment.count)
        c.segments
        ((operationBlocks (sortByClock spans)).filter fun block => minRun ≤ block.length) := by
  refine ⟨fun segment htrace => exists_expand htrace tick, fun minRun spans c h => ?_⟩
  obtain ⟨-, rfl⟩ := eq_of_compress_eq_ok h
  rw [← map_toList_operationRuns (stablySorted_sortByClock spans), ← map_toList_longRuns,
    List.forall₂_map_left_iff, List.forall₂_map_right_iff, List.forall₂_same]
  intro run _ hlimit
  refine ⟨_, expand_summary, timeTogether_standIns_le hlimit, ?_⟩
  exact Int.ofNat_lt.2 (timeTogether_lt_standIns hlimit)

/-- Four reads whose clocks begin below zero, and that took less than no time. -/
def readsAcrossZero : Segment :=
  { operation := "read", count := 4, startClock := -2, endClock := 1, total := -20, average := -5,
    shortest := 0, longest := 0, attributes := "\x7b\x7d", process := 1, thread := 1,
    traceId := (Ident.ofNat 16 7).bytes }

/-- Two reads that together take an odd time. -/
def unevenReads : List Span :=
  [plainSpan 1 "read" 0 0 7, plainSpan 2 "read" 1 10 14]

/-- Zero is a multiple of every number, and the identifiers of the clocks on both sides
of it are different all the same. Two spans that stand for two others of an odd time lose
one unit of it, which is less than one for each. -/
theorem reads_across_zero_expand :
    readsAcrossZero.traceId.length = 16 ∧
      (∃ made, readsAcrossZero.expand 1000 = .ok made ∧
        made.map (·.clock) = [-2, -1, 0, 1] ∧ (made.map (·.spanId)).Nodup ∧
        ∀ span ∈ made, span.duration = 0) ∧
      ∃ c segment made, compress 2 unevenReads = .ok c ∧ c.segments = [segment] ∧
        segment.expand 1000 = .ok made ∧ Span.timeTogether made ≤ 11 ∧
        11 < Span.timeTogether made + 2 := by
  obtain ⟨hexpands, hmeasures⟩ := segments_count_up 1000
  have htrace : readsAcrossZero.traceId.length = 16 := by decide
  refine ⟨htrace, ?_, ?_⟩
  · obtain ⟨made, hmade, hcounts⟩ := hexpands readsAcrossZero htrace
    have hlength : made.length = 4 := Int.ofNat_inj.1 hcounts.length_eq
    refine ⟨made, hmade, ?_, hcounts.nodup_iff.2 (by decide), fun span hspan => ?_⟩
    · rw [hcounts.clocks_eq, hlength]
      rfl
    · exact Int.ofNat_inj.1 (hcounts.duration_eq span hspan)
  · have hruns : operationRuns unevenReads =
        [⟨plainSpan 1 "read" 0 0 7, [plainSpan 2 "read" 1 10 14]⟩] := by
      cbv
    have hsort : sortByClock unevenReads = unevenReads := by
      cbv
    have hblocks : ((operationBlocks (sortByClock unevenReads)).filter fun block =>
        (2 : Int) ≤ block.length) = [unevenReads] := by
      rw [hsort]
      rfl
    have hlimit : ∀ span ∈ unevenReads, span.duration ≤ durationLimit := by decide
    have hcompress := compress_eq_ok_of_forall (show (1 : Int) ≤ 2 by decide) hlimit
    rw [hruns] at hcompress
    have hsegments := hmeasures 2 unevenReads _ hcompress
    rw [hblocks] at hsegments
    obtain ⟨made, hmade, hle, hlt⟩ := (List.forall₂_cons.1 hsegments).1 (by decide)
    exact ⟨_, _, made, hcompress, rfl, hmade, hle, Int.ofNat_lt.1 hlt⟩

end CausalTrace
