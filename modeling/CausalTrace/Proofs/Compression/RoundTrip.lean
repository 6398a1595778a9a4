/-
Compressing spans and expanding them again.

* `Restorable`: runs that compression and expansion can restore;
  `Restorable.map_restore`: restored runs can be restored again;
* `Restorable.operationRuns_eq`: no two runs merge and none is split once
  their spans are sorted again;
* `Restorable.decompress_compress`: compressing and expanding restores each
  run in its place;
* `decompress_compress_fixed`: **what comes back has the same operations in
  the same order at increasing clocks, and comes back unchanged from then
  on**.
-/
import CausalTrace.Proofs.Compression.Restore
import Mathlib.Data.List.Nodup

namespace CausalTrace

variable {minRun tick : Int} {runs : List (Run Span)} {spans sorted : List Span}

/-! ### Sorting again -/

/-- Strictly increasing clocks tell spans apart, so that no other order of
them is sorted. -/
lemma sortByClock_eq_of_perm {given : List Span} (h : Ascending spans)
    (hperm : given.Perm spans) : sortByClock given = spans := by
  have hnodup : (spans.map (·.clock)).Nodup := by
    rw [List.Nodup, List.pairwise_map]
    exact h.imp Int.ne_of_lt
  have hsorted : StablySorted (fun span : Span => span.clock) spans spans :=
    ⟨List.Perm.refl _, h.imp Int.le_of_lt, fun _ => rfl⟩
  exact hsorted.eq_of_perm (stablySorted_sortByClock given) hperm hnodup

/-- Spans of different clocks in the order of their clocks. -/
lemma ascending_of_stablySorted
    (hsorted : StablySorted (fun span : Span => span.clock) spans sorted)
    (hclocks : (spans.map (·.clock)).Nodup) : Ascending sorted := by
  have hnodup : (sorted.map (·.clock)).Nodup := (hsorted.perm.map _).nodup_iff.2 hclocks
  rw [List.Nodup, List.pairwise_map] at hnodup
  exact hsorted.ordered.imp₂ (fun a b hle hne => Int.lt_iff_le_and_ne.2 ⟨hle, hne⟩) hnodup

/-! ### Runs that can be restored -/

/-- Maximal runs of one operation at strictly increasing clocks, the
durations of each long run within the limit together. -/
structure Restorable (minRun : Int) (runs : List (Run Span)) : Prop where
  canonical : Canonical Span.operation runs
  ascending : Ascending (runs.flatMap Run.toList)
  summable : ∀ run ∈ runs, minRun ≤ run.length → Span.timeTogether run.toList ≤ durationLimit

namespace Restorable

/-- The runs of some runs' spans are those runs. -/
lemma operationRuns_eq (h : Restorable minRun runs) :
    operationRuns (runs.flatMap Run.toList) = runs := by
  rw [operationRuns, sortByClock_eq_of_perm h.ascending (List.Perm.refl _)]
  exact (cut_eq_runsOn Span.operation _).trans (runsOn_flatMap h.canonical)

lemma ascending_run (h : Restorable minRun runs) {run : Run Span} (hrun : run ∈ runs) :
    Ascending run.toList :=
  (List.pairwise_flatMap.1 h.ascending).1 run hrun

/-- A restored run ends before the next one starts, so that no span of it
gets past a neighbour. -/
lemma ascending_map_restore (h : Restorable minRun runs) (tick : Int) :
    Ascending ((runs.map (restore minRun tick)).flatMap Run.toList) := by
  rw [Ascending, List.flatMap_map, List.pairwise_flatMap]
  refine ⟨fun run hrun => ascending_restore (h.ascending_run hrun), ?_⟩
  refine (List.pairwise_flatMap.1 h.ascending).2.imp_of_mem ?_
  intro run next hrun hnext hlt new hnew other hother
  obtain ⟨old, hold, hle⟩ := exists_restore_clock_le (h.ascending_run hrun) new hnew
  have hfirst := first_clock_le_restore (h.ascending_run hnext) other hother
  have hbetween := hlt old hold _ List.mem_cons_self
  omega

/-- Restored runs can be restored again. -/
lemma map_restore (h : Restorable minRun runs) (tick : Int) :
    Restorable minRun (runs.map (restore minRun tick)) := by
  refine ⟨⟨?_, ?_⟩, h.ascending_map_restore tick, ?_⟩
  · intro new hnew
    obtain ⟨run, hrun, rfl⟩ := List.mem_map.1 hnew
    rw [operation_restore]
    exact alike_restore (h.canonical.alike run hrun)
  · rw [List.isChain_map]
    simp only [operation_restore]
    exact h.canonical.maximal
  · intro new hnew hlong
    obtain ⟨run, hrun, rfl⟩ := List.mem_map.1 hnew
    rw [length_restore] at hlong
    have hlimit := h.summable run hrun hlong
    rw [restore_of_le hlong]
    exact (timeTogether_standIns_le hlimit).trans hlimit

/-- Restoring all runs twice is restoring them once. -/
lemma map_restore_map_restore (h : Restorable minRun runs) (tick : Int) :
    (runs.map (restore minRun tick)).map (restore minRun tick) =
      runs.map (restore minRun tick) := by
  rw [List.map_map]
  exact List.map_congr_left fun run hrun => restore_restore (h.summable run hrun)

end Restorable

/-! ### Compressing and expanding -/

/-- The spans that stay and those of the segments are those of the restored
runs. -/
lemma flatMap_restore_perm (minRun tick : Int) (runs : List (Run Span)) :
    ((shortRuns minRun runs).flatMap Run.toList ++
      ((longRuns minRun runs).map fun run => (standIns tick run).toList).flatten).Perm
        ((runs.map (restore minRun tick)).flatMap Run.toList) := by
  have hshort : (shortRuns minRun runs).flatMap Run.toList =
      (shortRuns minRun runs).flatMap fun run => (restore minRun tick run).toList := by
    refine List.flatMap_congr ?_
    intro run hrun
    rw [restore_of_lt (of_decide_eq_true (List.mem_filter.1 hrun).2)]
  have hlong : ((longRuns minRun runs).map fun run => (standIns tick run).toList) =
      (longRuns minRun runs).map fun run => (restore minRun tick run).toList := by
    refine List.map_congr_left ?_
    intro run hrun
    rw [restore_of_le (of_decide_eq_true (List.mem_filter.1 hrun).2)]
  rw [hshort, hlong, ← List.flatMap_def, List.flatMap_map, ← List.flatMap_append]
  exact (List.perm_append_comm.trans (long_append_short_perm minRun runs)).flatMap_right _

/-- Compressing and expanding restores each run in its place. -/
lemma Restorable.decompress_compress (hmin : 1 ≤ minRun) (tick : Int)
    (h : Restorable minRun (operationRuns spans)) :
    ∃ c, compress minRun spans = .ok c ∧ c.decompress tick =
      .ok (((operationRuns spans).map (restore minRun tick)).flatMap Run.toList) := by
  have hlimit : ∀ run ∈ longRuns minRun (operationRuns spans), WithinLimit run := by
    intro run hrun span hspan
    obtain ⟨hrun, hlong⟩ := List.mem_filter.1 hrun
    exact (duration_le_timeTogether hspan).trans (h.summable run hrun (of_decide_eq_true hlong))
  have hexpand : ((longRuns minRun (operationRuns spans)).map Segment.summary).mapM
      (Segment.expand tick) = .ok ((longRuns minRun (operationRuns spans)).map
        fun run => (standIns tick run).toList) := by
    rw [List.mapM_map]
    exact mapM_eq_ok fun run _ => expand_summary
  refine ⟨_, compress_eq_ok hmin hlimit, ?_⟩
  rw [Compressed.decompress, hexpand]
  exact congrArg Except.ok
    (sortByClock_eq_of_perm (h.ascending_map_restore tick) (flatMap_restore_perm minRun tick _))

/-! ### What comes back -/

/-- What restoring each run keeps of its spans, restoring all keeps. -/
lemma map_flatMap_restore {α : Type} {f : Span → α}
    (h : ∀ run ∈ runs, (restore minRun tick run).toList.map f = run.toList.map f) :
    ((runs.map (restore minRun tick)).flatMap Run.toList).map f =
      (runs.flatMap Run.toList).map f := by
  rw [List.flatMap_map, List.map_flatMap, List.map_flatMap]
  exact List.flatMap_congr h

/-- Restoring moves no span to another position. -/
lemma length_flatMap_restore (runs : List (Run Span)) :
    ((runs.map (restore minRun tick)).flatMap Run.toList).length =
      (runs.flatMap Run.toList).length := by
  simp only [List.length_flatMap, List.map_map, Function.comp_def, Run.length_toList,
    length_restore]

/-- No span comes back later than it was. -/
lemma Restorable.clock_le (h : Restorable minRun runs) (tick : Int) :
    List.Forall₂ (fun new old : Span => new.clock ≤ old.clock)
      ((runs.map (restore minRun tick)).flatMap Run.toList) (runs.flatMap Run.toList) := by
  rw [List.flatMap_def, List.flatMap_def]
  refine List.rel_flatten ?_
  rw [List.map_map, List.forall₂_map_left_iff, List.forall₂_map_right_iff, List.forall₂_same]
  exact fun run hrun => clock_restore_le (h.ascending_run hrun)

/-- A short run stands unchanged where it stood. -/
lemma exists_restore_eq_append {before after : List (List Span)} {block : List Span}
    (h : runs.map Run.toList = before ++ block :: after) (hshort : block.length < minRun) :
    ∃ front back, (runs.map (restore minRun tick)).flatMap Run.toList = front ++ block ++ back ∧
      front.length = before.flatten.length := by
  obtain ⟨early, others, rfl, rfl, hothers⟩ := List.map_eq_append_iff.1 h
  obtain ⟨run, late, rfl, rfl, rfl⟩ := List.map_eq_cons_iff.1 hothers
  rw [run.length_toList] at hshort
  refine ⟨(early.map (restore minRun tick)).flatMap Run.toList,
    (late.map (restore minRun tick)).flatMap Run.toList, ?_, ?_⟩
  · rw [List.map_append, List.flatMap_append, List.map_cons, List.flatMap_cons,
      restore_of_lt hshort, List.append_assoc]
  · rw [length_flatMap_restore, List.flatMap_def]

/-- **Compressing and expanding is done once**: spans of different clocks come
back in the order of their clocks, with the operations they had, none later
than it was, and those of short blocks unchanged where they stood. Blocks of
consecutive clocks keep their clocks. What came back comes back again as it
is. -/
theorem decompress_compress_fixed (hmin : 1 ≤ minRun) (tick : Int)
    (hsorted : StablySorted (fun span : Span => span.clock) spans sorted)
    (hclocks : (spans.map (·.clock)).Nodup)
    (htime : ∀ block ∈ operationBlocks sorted, minRun ≤ block.length →
      Span.timeTogether block ≤ durationLimit) :
    ∃ c restored, compress minRun spans = .ok c ∧ c.decompress tick = .ok restored ∧
      restored.length = spans.length ∧
      Ascending restored ∧
      List.Forall₂ (fun new old : Span => new.clock ≤ old.clock) restored sorted ∧
      restored.map Span.operation = sorted.map Span.operation ∧
      (∀ before block after, operationBlocks sorted = before ++ block :: after →
        block.length < minRun →
          ∃ front back, restored = front ++ block ++ back ∧
            front.length = before.flatten.length) ∧
      ((∀ block ∈ operationBlocks sorted, minRun ≤ block.length →
          block.IsChain fun a b => b.clock = a.clock + 1) →
        restored.map (·.clock) = sorted.map (·.clock)) ∧
      ∃ again, compress minRun restored = .ok again ∧ again.decompress tick = .ok restored := by
  have hblocks := map_toList_operationRuns hsorted
  have hspans := flatMap_operationRuns hsorted
  have hruns : Restorable minRun (operationRuns spans) := by
    refine ⟨operationRuns_eq_runsOn hsorted ▸ canonical_runsOn _ _, ?_, ?_⟩
    · rw [hspans]
      exact ascending_of_stablySorted hsorted hclocks
    · intro run hrun hlong
      exact htime _ (hblocks ▸ List.mem_map_of_mem hrun) (by rwa [run.length_toList])
  obtain ⟨c, hc, hrestored⟩ := hruns.decompress_compress hmin tick
  have hle := hruns.clock_le tick
  have hagain := hruns.map_restore tick
  rw [hspans] at hle
  refine ⟨c, _, hc, hrestored, hle.length_eq.trans hsorted.perm.length_eq, hagain.ascending, hle,
    ?_, ?_, ?_, ?_⟩
  · rw [map_flatMap_restore fun run hrun => map_operation_restore (hruns.canonical.alike run hrun),
      hspans]
  · intro before block after hat hshort
    exact exists_restore_eq_append (hblocks.trans hat) hshort
  · intro hconsecutive
    have hclock : ∀ run ∈ operationRuns spans,
        (restore minRun tick run).toList.map (·.clock) = run.toList.map (·.clock) := by
      intro run hrun
      refine map_clock_restore fun hlong => hconsecutive _ (hblocks ▸ List.mem_map_of_mem hrun) ?_
      rwa [run.length_toList]
    rw [map_flatMap_restore hclock, hspans]
  · -- the runs of what came back are the restored runs, and restoring those changes nothing
    have hfixed := Restorable.decompress_compress hmin tick
      (hagain.operationRuns_eq.symm ▸ hagain)
    rwa [hagain.operationRuns_eq, hruns.map_restore_map_restore] at hfixed

/-- Three reads with gaps between their clocks, and a write after them. -/
def readsWithGaps : List Span :=
  [plainSpan 1 "write" 10 100 103, plainSpan 2 "read" 5 50 57, plainSpan 3 "read" 3 30 34,
    plainSpan 4 "read" 9 90 90]

/-- The three reads come back before the write, which stays as it is, and
nothing moves any further. -/
theorem reads_with_gaps_restored :
    (readsWithGaps.map (·.clock)).Nodup ∧
      ∃ c reads, compress 2 readsWithGaps = .ok c ∧ reads.length = 3 ∧
        c.decompress 10 = .ok (reads ++ [plainSpan 1 "write" 10 100 103]) ∧
        ∃ again, compress 2 (reads ++ [plainSpan 1 "write" 10 100 103]) = .ok again ∧
          again.decompress 10 = .ok (reads ++ [plainSpan 1 "write" 10 100 103]) := by
  have hclocks : (readsWithGaps.map (·.clock)).Nodup := by decide
  have hsorted := stablySorted_sortByClock readsWithGaps
  have hsort : sortByClock readsWithGaps =
      [plainSpan 3 "read" 3 30 34, plainSpan 2 "read" 5 50 57, plainSpan 4 "read" 9 90 90,
        plainSpan 1 "write" 10 100 103] := by
    cbv
  rw [hsort] at hsorted
  obtain ⟨c, restored, hc, hrestored, hlength, -, -, -, hshort, -, hagain⟩ :=
    decompress_compress_fixed (show (1 : Int) ≤ 2 by decide) 10 hsorted hclocks (by decide)
  obtain ⟨reads, back, rfl, hreads⟩ := hshort
    [[plainSpan 3 "read" 3 30 34, plainSpan 2 "read" 5 50 57, plainSpan 4 "read" 9 90 90]]
    [plainSpan 1 "write" 10 100 103] [] (by decide) (by decide)
  obtain rfl : back = [] := by
    simp only [List.length_append, hreads] at hlength
    exact List.eq_nil_of_length_eq_zero (by simpa [readsWithGaps] using hlength)
  rw [List.append_nil] at hrestored hagain
  exact ⟨hclocks, c, reads, hc, hreads, hrestored, hagain⟩

end CausalTrace
