/-
What compression and expansion make of one run.

* `standIn`, `standIns`: the synthetic spans of the segment of a run;
* `expand_summary`: expanding the summary of a run gives them;
* `Ascending`: spans with strictly increasing clocks;
  `forall₂_clock_le`: counting up from the first clock stays below them;
* `average_standIns`, `standIns_standIns`: the average of equal averages is
  the same again, and so are the stand-ins of stand-ins;
* `restore`: stand-ins for a long run, and a short run itself.
-/
import CausalTrace.Proofs.Compression.Segments
import CausalTrace.Proofs.Time

namespace CausalTrace

variable {minRun tick : Int} {run : Run Span} {spans : List Span}

/-! ### Stand-ins -/

/-- The synthetic span at a position in the segment of a run. -/
def standIn (tick : Int) (run : Run Span) (position : Nat) : Span :=
  let clock := run.first.clock + position
  { name := run.first.name
    startTime := clock * tick
    endTime := clock * tick + (Segment.summary run).average
    clock
    process := run.first.process
    thread := run.first.thread
    status := .ok
    attributes := run.first.attributes
    traceId := run.first.traceId
    spanId := ⟨syntheticId clock, by simp [syntheticId, Ident.bytesOfNat]⟩
    parentId := none }

/-- The run of the synthetic spans of the segment of a run. -/
def standIns (tick : Int) (run : Run Span) : Run Span :=
  ⟨standIn tick run 0, (List.range run.rest.length).map fun i => standIn tick run (i + 1)⟩

lemma length_standIns : (standIns tick run).length = run.length := by
  simp [standIns, Run.length]

lemma toList_standIns :
    (standIns tick run).toList = (List.range run.length).map (standIn tick run) := by
  rw [Run.length, List.range_succ_eq_map, List.map_cons, List.map_map]
  rfl

lemma operation_standIn (i : Nat) : (standIn tick run i).operation = run.first.operation :=
  rfl

/-- A synthetic span of a summary is always created: its identifiers have
the right sizes. -/
lemma synthetic_summary (i : Nat) :
    (Segment.summary run).synthetic tick i = .ok (standIn tick run i) :=
  Span.create_eq_ok_iff.2 ⟨rfl, rfl, rfl, rfl⟩

/-- The summary of a run expands into the stand-ins. -/
lemma expand_summary :
    (Segment.summary run).expand tick = .ok (standIns tick run).toList := by
  rw [Segment.expand, mapM_eq_ok fun i _ => synthetic_summary i, toList_standIns]
  rfl

/-! ### Durations -/

/-- Up to the limit, a number in 64 bits is itself. -/
lemma wrap64_of_le {n : Nat} (h : n ≤ durationLimit) : wrap64 n = n := by
  simp only [durationLimit, Nat.reducePow, Nat.reduceSub] at h
  simp only [wrap64, Nat.reducePow]
  exact Int.bmod_eq_of_le (by omega) (by omega)

/-- The average duration is rounded down. -/
lemma average_summary (h : Span.timeTogether run.toList ≤ durationLimit) :
    (Segment.summary run).average = (Span.timeTogether run.toList / run.length : Nat) := by
  rw [Segment.summary, wrap64_of_le h, Int.ofNat_fdiv]

lemma duration_standIn (h : Span.timeTogether run.toList ≤ durationLimit) (i : Nat) :
    (standIn tick run i).duration = Span.timeTogether run.toList / run.length := by
  have hend : (standIn tick run i).endTime =
      (standIn tick run i).startTime + (Segment.summary run).average := rfl
  rw [Span.duration, hend, Int.add_comm, Int.add_sub_cancel, average_summary h, Int.toNat_natCast]

lemma timeTogether_standIns (h : Span.timeTogether run.toList ≤ durationLimit) :
    Span.timeTogether (standIns tick run).toList =
      run.length * (Span.timeTogether run.toList / run.length) := by
  have hduration : ∀ span ∈ (standIns tick run).toList,
      span.duration = Span.timeTogether run.toList / run.length := by
    rw [toList_standIns]
    intro span hspan
    obtain ⟨i, -, rfl⟩ := List.mem_map.1 hspan
    exact duration_standIn h i
  rw [timeTogether_eq_mul hduration, Run.length_toList, length_standIns]

/-- Stand-ins take no more time than the spans they stand for. -/
lemma timeTogether_standIns_le (h : Span.timeTogether run.toList ≤ durationLimit) :
    Span.timeTogether (standIns tick run).toList ≤ Span.timeTogether run.toList := by
  rw [timeTogether_standIns h]
  exact Nat.mul_div_le _ _

/-- The average of equal averages is the same again. -/
lemma average_standIns (h : Span.timeTogether run.toList ≤ durationLimit) :
    (Segment.summary (standIns tick run)).average = (Segment.summary run).average := by
  have hle : Span.timeTogether (standIns tick run).toList ≤ durationLimit :=
    (timeTogether_standIns_le h).trans h
  have hpos : 0 < run.length := Nat.succ_pos _
  calc (Segment.summary (standIns tick run)).average
      = (Span.timeTogether (standIns tick run).toList / (standIns tick run).length : Nat) :=
        average_summary hle
    _ = (run.length * (Span.timeTogether run.toList / run.length) / run.length : Nat) := by
        rw [timeTogether_standIns h, length_standIns]
    _ = (Span.timeTogether run.toList / run.length : Nat) := by
        rw [Nat.mul_div_cancel_left _ hpos]
    _ = (Segment.summary run).average := (average_summary h).symm

/-- Stand-ins of stand-ins are the stand-ins. -/
lemma standIns_standIns (h : Span.timeTogether run.toList ≤ durationLimit) :
    standIns tick (standIns tick run) = standIns tick run := by
  have hstandIn : standIn tick (standIns tick run) = standIn tick run := by
    funext i
    have haverage : (Segment.summary (standIns tick run)).average =
        (Segment.summary run).average := average_standIns h
    have hclock : (standIns tick run).first.clock = run.first.clock := by
      simp [standIns, standIn]
    simp only [standIn, haverage, hclock]
    rfl
  rw [standIns, hstandIn]
  simp [standIns]

/-! ### Clocks -/

/-- Spans with strictly increasing clocks. -/
def Ascending (spans : List Span) : Prop :=
  spans.Pairwise fun a b => a.clock < b.clock

/-- Counting up from below the first of some strictly increasing clocks stays
below them. -/
lemma forall₂_clock_le {start : Int} (h : Ascending spans)
    (hstart : ∀ span ∈ spans, start ≤ span.clock) :
    List.Forall₂ (fun (i : Nat) span => start + i ≤ span.clock) (List.range spans.length)
      spans := by
  induction spans generalizing start with
  | nil => exact List.Forall₂.nil
  | cons span spans ih =>
    have hspan := hstart span List.mem_cons_self
    rw [List.length_cons, List.range_succ_eq_map, List.forall₂_cons, List.forall₂_map_left_iff]
    have hrest : ∀ other ∈ spans, start + 1 ≤ other.clock := by
      intro other hother
      have hlt := List.rel_of_pairwise_cons h hother
      omega
    exact ⟨by omega, (ih h.of_cons hrest).imp fun i other hle => by omega⟩

/-- Counting up from the first of some consecutive clocks gives them. -/
lemma map_clock_of_isChain {first : Span} {rest : List Span}
    (h : (first :: rest).IsChain fun a b => b.clock = a.clock + 1) :
    (first :: rest).map (·.clock) =
      (List.range (first :: rest).length).map fun i : Nat => first.clock + i := by
  induction rest generalizing first with
  | nil => simp
  | cons second rest ih =>
    obtain ⟨hnext, hrest⟩ := List.isChain_cons_cons.1 h
    have hrange : List.range (first :: second :: rest).length =
        0 :: (List.range (second :: rest).length).map Nat.succ := List.range_succ_eq_map
    rw [List.map_cons, ih hrest, hnext, hrange, List.map_cons, List.map_map]
    refine List.cons_eq_cons.2 ⟨?_, List.map_congr_left fun i _ => ?_⟩
    · exact (Int.add_zero _).symm
    · simp only [Function.comp_apply, Nat.succ_eq_add_one]
      omega

/-- The stand-ins count up from the first clock of the run. -/
lemma map_clock_standIns :
    (standIns tick run).toList.map (·.clock) =
      (List.range run.length).map fun i : Nat => run.first.clock + i := by
  rw [toList_standIns, List.map_map]
  rfl

lemma ascending_standIns : Ascending (standIns tick run).toList := by
  rw [Ascending, toList_standIns, List.pairwise_map]
  refine List.pairwise_lt_range.imp fun h => ?_
  exact Int.add_lt_add_left (Int.ofNat_lt.2 h) _

/-- No stand-in comes later than the span it stands for. -/
lemma clock_standIns_le (h : Ascending run.toList) :
    List.Forall₂ (fun new old : Span => new.clock ≤ old.clock) (standIns tick run).toList
      run.toList := by
  rw [toList_standIns, List.forall₂_map_left_iff, ← run.length_toList]
  refine forall₂_clock_le h fun span hspan => ?_
  rcases List.mem_cons.1 hspan with rfl | hspan
  · exact Int.le_refl _
  · exact Int.le_of_lt (List.rel_of_pairwise_cons h hspan)

/-! ### Long and short runs -/

/-- What compression and expansion make of a run: stand-ins if it is long
enough, else the run itself. -/
def restore (minRun tick : Int) (run : Run Span) : Run Span :=
  if minRun ≤ run.length then standIns tick run else run

lemma length_restore : (restore minRun tick run).length = run.length := by
  rw [restore]
  split
  · exact length_standIns
  · rfl

lemma restore_of_le (h : minRun ≤ run.length) : restore minRun tick run = standIns tick run :=
  if_pos h

lemma restore_of_lt (h : run.length < minRun) : restore minRun tick run = run :=
  if_neg (Int.not_le.2 h)

lemma operation_restore :
    (restore minRun tick run).first.operation = run.first.operation := by
  rw [restore]
  split
  · exact operation_standIn 0
  · rfl

lemma alike_restore (h : ∀ span ∈ run.toList, span.operation = run.first.operation) :
    ∀ span ∈ (restore minRun tick run).toList, span.operation = run.first.operation := by
  rw [restore]
  split
  · rw [toList_standIns]
    intro span hspan
    obtain ⟨i, -, rfl⟩ := List.mem_map.1 hspan
    exact operation_standIn i
  · exact h

/-- Restoring a run of one operation keeps the operations. -/
lemma map_operation_restore (h : ∀ span ∈ run.toList, span.operation = run.first.operation) :
    (restore minRun tick run).toList.map Span.operation = run.toList.map Span.operation := by
  rw [List.map_eq_replicate_iff.2 (alike_restore h), List.map_eq_replicate_iff.2 h,
    Run.length_toList, Run.length_toList, length_restore]

lemma ascending_restore (h : Ascending run.toList) :
    Ascending (restore minRun tick run).toList := by
  rw [restore]
  split
  · exact ascending_standIns
  · exact h

/-- No span of a restored run comes later than its original. -/
lemma clock_restore_le (h : Ascending run.toList) :
    List.Forall₂ (fun new old : Span => new.clock ≤ old.clock) (restore minRun tick run).toList
      run.toList := by
  rw [restore]
  split
  · exact clock_standIns_le h
  · exact List.forall₂_same.2 fun span _ => Int.le_refl _

/-- Every span of a restored run comes no later than one of the run. -/
lemma exists_restore_clock_le (h : Ascending run.toList) :
    ∀ new ∈ (restore minRun tick run).toList, ∃ old ∈ run.toList, new.clock ≤ old.clock := by
  intro new hnew
  obtain ⟨⟨i, hi⟩, rfl⟩ := List.mem_iff_get.1 hnew
  have hi' := Nat.lt_of_lt_of_eq hi (clock_restore_le h).length_eq
  exact ⟨_, List.get_mem _ ⟨i, hi'⟩, (clock_restore_le h).get hi hi'⟩

/-- No span of a restored run comes before the first of the run. -/
lemma first_clock_le_restore (h : Ascending run.toList) :
    ∀ span ∈ (restore minRun tick run).toList, run.first.clock ≤ span.clock := by
  intro span hspan
  rw [restore] at hspan
  split at hspan
  · rw [toList_standIns] at hspan
    obtain ⟨i, -, rfl⟩ := List.mem_map.1 hspan
    exact Int.le_add_of_nonneg_right (Int.natCast_nonneg i)
  · rcases List.mem_cons.1 hspan with rfl | hspan
    · exact Int.le_refl _
    · exact Int.le_of_lt (List.rel_of_pairwise_cons h hspan)

/-- Restoring a run of consecutive clocks keeps the clocks. -/
lemma map_clock_restore (h : minRun ≤ run.length →
    run.toList.IsChain fun a b => b.clock = a.clock + 1) :
    (restore minRun tick run).toList.map (·.clock) = run.toList.map (·.clock) := by
  rw [restore]
  split
  · rename_i hlong
    rw [map_clock_standIns, ← run.length_toList]
    exact (map_clock_of_isChain (h hlong)).symm
  · rfl

/-- Restoring a run twice is restoring it once. -/
lemma restore_restore
    (h : minRun ≤ run.length → Span.timeTogether run.toList ≤ durationLimit) :
    restore minRun tick (restore minRun tick run) = restore minRun tick run := by
  by_cases hlong : minRun ≤ run.length
  · rw [restore_of_le hlong, restore_of_le (by rwa [length_standIns]), standIns_standIns (h hlong)]
  · rw [restore_of_lt (Int.not_le.1 hlong), restore_of_lt (Int.not_le.1 hlong)]

end CausalTrace
