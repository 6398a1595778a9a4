/-
The time that segments account for.

* `wrap64_le`, `wrap64_eq_iff`: in 64 bits no sum gets greater, and it stays
  the same exactly up to the limit;
* `Segment.Measures`: what the total and the average of a segment say of the
  time of a block; `measures_summary`: the summary of a run does;
* `Compressed.time`: the time that segments and spans account for;
  `time_summary_le`, `time_summary_eq_iff`: that of the summaries of some runs;
* `compressed_time_exact_iff`: **no time is lost exactly if no block that
  becomes a segment takes longer than the limit**, though each of its spans
  keeps to it.
-/
import CausalTrace.Proofs.Compression.Restore

namespace CausalTrace

variable {minRun : Int} {run : Run Span} {runs : List (Run Span)} {spans : List Span}
  {c : Compressed}

/-! ### Sums in 64 bits -/

/-- In 64 bits no number is beyond the limit. -/
lemma wrap64_le_limit (n : Int) : wrap64 n ≤ durationLimit := by
  have hlt := Int.bmod_lt (x := n) (show 0 < 2 ^ 64 by decide)
  simp only [wrap64, durationLimit]
  omega

/-- In 64 bits a number stays the same exactly up to the limit. -/
lemma wrap64_eq_iff {n : Nat} : wrap64 n = n ↔ n ≤ durationLimit := by
  refine ⟨fun h => ?_, wrap64_of_le⟩
  have hle := wrap64_le_limit n
  omega

/-- In 64 bits no number gets greater. -/
lemma wrap64_le (n : Nat) : wrap64 n ≤ n := by
  by_cases h : n ≤ durationLimit
  · exact Int.le_of_eq (wrap64_of_le h)
  · have hle := wrap64_le_limit n
    omega

/-! ### One segment -/

/-- What the total and the average of a segment say of the time of a block:
both are right if the block keeps to the limit. -/
structure Segment.Measures (segment : Segment) (block : List Span) : Prop where
  total_eq : segment.total = wrap64 (Span.timeTogether block)
  total_eq_iff : segment.total = Span.timeTogether block ↔ Span.timeTogether block ≤ durationLimit
  average_eq : segment.average = segment.total.fdiv block.length
  average_mem : Span.timeTogether block ≤ durationLimit →
    segment.shortest ≤ segment.average ∧ segment.average ≤ segment.longest

lemma total_summary (run : Run Span) :
    (Segment.summary run).total = wrap64 (Span.timeTogether run.toList) := by
  rw [Segment.summary]

/-- The average lies between the shortest and the longest duration, as long as
the run keeps to the limit. -/
lemma average_summary_mem (halike : ∀ span ∈ run.toList, span.operation = run.first.operation)
    (h : Span.timeTogether run.toList ≤ durationLimit) :
    (Segment.summary run).shortest ≤ (Segment.summary run).average ∧
      (Segment.summary run).average ≤ (Segment.summary run).longest := by
  have hdescribes := describes_summary halike
  obtain ⟨short, -, hshort⟩ := hdescribes.exists_shortest
  obtain ⟨long, -, hlong⟩ := hdescribes.exists_longest
  have hpos : 0 < run.length := Nat.succ_pos _
  have hlow : run.length * short.duration ≤ Span.timeTogether run.toList := by
    rw [← run.length_toList]
    exact mul_le_timeTogether fun span hspan =>
      Int.ofNat_le.1 (hshort ▸ hdescribes.shortest_le span hspan)
  have hhigh : Span.timeTogether run.toList ≤ run.length * long.duration := by
    rw [← run.length_toList]
    exact timeTogether_le_mul fun span hspan =>
      Int.ofNat_le.1 (hlong ▸ hdescribes.le_longest span hspan)
  rw [average_summary h, ← hshort, ← hlong]
  constructor
  · exact Int.ofNat_le.2 ((Nat.le_div_iff_mul_le hpos).2 (by rwa [Nat.mul_comm]))
  · exact Int.ofNat_le.2 (Nat.div_le_of_le_mul hhigh)

/-- The summary of a run of one operation measures it. -/
lemma measures_summary (halike : ∀ span ∈ run.toList, span.operation = run.first.operation) :
    (Segment.summary run).Measures run.toList where
  total_eq := total_summary run
  total_eq_iff := by rw [total_summary, wrap64_eq_iff]
  average_eq := by rw [run.length_toList, Segment.summary]
  average_mem := average_summary_mem halike

/-! ### All segments -/

/-- The time that segments account for, and that of the spans that are kept. -/
def Compressed.time (c : Compressed) : Int :=
  c.segments.foldr (fun segment time => segment.total + time) (Span.timeTogether c.uncompressed)

/-- The summary of one more run adds its sum in 64 bits. -/
lemma time_summary_cons (run : Run Span) (runs : List (Run Span)) (uncompressed : List Span)
    (given : Int) :
    Compressed.time ⟨(run :: runs).map Segment.summary, uncompressed, given⟩ =
      wrap64 (Span.timeTogether run.toList) +
        Compressed.time ⟨runs.map Segment.summary, uncompressed, given⟩ := by
  rw [Compressed.time, Compressed.time, List.map_cons, List.foldr_cons, total_summary]

/-- Summaries never account for more time than their runs took. -/
lemma time_summary_le (runs : List (Run Span)) (uncompressed : List Span) (given : Int) :
    Compressed.time ⟨runs.map Segment.summary, uncompressed, given⟩ ≤
      Span.timeTogether (runs.flatMap Run.toList ++ uncompressed) := by
  induction runs with
  | nil => exact Int.le_refl _
  | cons run runs ih =>
    have hrun := wrap64_le (Span.timeTogether run.toList)
    rw [time_summary_cons, List.flatMap_cons, List.append_assoc, timeTogether_append]
    omega

/-- They account for all of it exactly if every run keeps to the limit. -/
lemma time_summary_eq_iff (uncompressed : List Span) (given : Int) :
    Compressed.time ⟨runs.map Segment.summary, uncompressed, given⟩ =
        Span.timeTogether (runs.flatMap Run.toList ++ uncompressed) ↔
      ∀ run ∈ runs, Span.timeTogether run.toList ≤ durationLimit := by
  induction runs with
  | nil => simp [Compressed.time]
  | cons run runs ih =>
    -- no sum makes up for what another one lost
    have hrun := wrap64_le (Span.timeTogether run.toList)
    have hrest := time_summary_le runs uncompressed given
    rw [List.forall_mem_cons, ← ih, ← wrap64_eq_iff, time_summary_cons, List.flatMap_cons,
      List.append_assoc, timeTogether_append]
    omega

/-- **No time is lost exactly if no block that becomes a segment takes longer
than the limit.** The durations of each span of such a block are within it, so
that compression succeeds, but their sum is kept in 64 bits. Time is never
invented, and up to the limit the total of a segment is that of its block and
the average lies between the shortest and the longest duration. -/
theorem compressed_time_exact_iff (h : compress minRun spans = .ok c) :
    let long := (operationBlocks (sortByClock spans)).filter fun block => minRun ≤ block.length
    List.Forall₂ Segment.Measures c.segments long ∧
      c.time ≤ Span.timeTogether spans ∧
      (c.time = Span.timeTogether spans ↔
        ∀ block ∈ long, Span.timeTogether block ≤ durationLimit) := by
  intro long
  obtain ⟨-, rfl⟩ := eq_of_compress_eq_ok h
  have hsorted := stablySorted_sortByClock spans
  have hlong : (longRuns minRun (operationRuns spans)).map Run.toList = long := by
    rw [map_toList_longRuns, map_toList_operationRuns hsorted]
  -- every span is in a long run or in a short one
  have hperm := (long_append_short_perm minRun (operationRuns spans)).flatMap_right Run.toList
  rw [List.flatMap_append, flatMap_operationRuns hsorted] at hperm
  rw [← hlong, List.forall_mem_map, timeTogether_perm (hperm.trans hsorted.perm).symm]
  refine ⟨?_, time_summary_le _ _ _, time_summary_eq_iff _ _⟩
  rw [List.forall₂_map_left_iff, List.forall₂_map_right_iff, List.forall₂_same]
  intro run hrun
  exact measures_summary (operation_eq_of_mem_operationRuns (List.mem_of_mem_filter hrun))

/-- The two reads that become a segment are far from the limit. -/
theorem reads_before_write_keep_time :
    ∃ c, compress 2 readsAroundWrite = .ok c ∧ c.time = Span.timeTogether readsAroundWrite := by
  have hsort : sortByClock readsAroundWrite =
      [plainSpan 3 "read" 3 30 36, plainSpan 4 "read" 3 31 30, plainSpan 2 "write" 5 50 51,
        plainSpan 1 "read" 7 70 74] := by
    cbv
  have hlimit : ∀ span ∈ readsAroundWrite, span.duration ≤ durationLimit := by decide
  have hcompress := compress_eq_ok_of_forall (show (1 : Int) ≤ 2 by decide) hlimit
  refine ⟨_, hcompress, (compressed_time_exact_iff hcompress).2.2.2 ?_⟩
  rw [hsort]
  decide

/-- Two reads, each of the longest duration that a segment can sum up. -/
def longestReads : List Span :=
  [plainSpan 1 "read" 0 0 durationLimit, plainSpan 2 "read" 1 0 durationLimit]

/-- Their sum leaves the range of 64 bits: their segment says that they took
less than no time, together and on average. -/
theorem longest_reads_lose_time :
    ∃ c segment, compress 2 longestReads = .ok c ∧ c.segments = [segment] ∧
      segment.total = -2 ∧ segment.average = -1 ∧ segment.shortest = durationLimit ∧
      c.time = -2 ∧ Span.timeTogether longestReads = 2 * durationLimit := by
  have hruns : operationRuns longestReads =
      [⟨plainSpan 1 "read" 0 0 durationLimit, [plainSpan 2 "read" 1 0 durationLimit]⟩] := by
    cbv
  have hlimit : ∀ span ∈ longestReads, span.duration ≤ durationLimit := by decide
  have hcompress := compress_eq_ok_of_forall (show (1 : Int) ≤ 2 by decide) hlimit
  rw [hruns] at hcompress
  exact ⟨_, _, hcompress, rfl, by decide, by decide, by decide, by decide, by decide⟩

end CausalTrace
