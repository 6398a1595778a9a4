/-
Reports about many batches.

* `Answered`: a batch has a report or is refused;
* `analyzeBatches_eq`: batches are analysed one by one, whatever the waves are;
* `collectReports_of_answers`, `collectReports_of_failure`: what is collected from the
  outcomes of batches that are all answered, and from others;
* `Covers`: reports are those of the batches, each at its position;
  `exists_covers`: so they are if all batches are answered;
* `FirstFailure`: the first batch that is not answered fails so;
  `analyzeBatches_eq_error_iff`: many batches fail as this one does;
* `batches_answered_apart`: **each batch is answered as if there were no others**, and
  no group of spans by their traces is refused for mixing traces.
-/
import CausalTrace.Proofs.Compression.Traces
import CausalTrace.Proofs.Report.Grouping
import CausalTrace.Proofs.Report.Outcome
import CausalTrace.Proofs.Report.Refusal

namespace CausalTrace

open CausalTrace.Graph (OneTrace build linked_build lateParent mutualParents)

variable {settings : Settings} {maxParallel given : Option Int} {batches : List (List Span)}
  {failure : Failure}

/-! ### Outcomes -/

/-- A report or a refusal, and no other failure. -/
def isAnswer : Except Failure Report → Bool
  | .ok _ => true
  | .error (.refused _) => true
  | .error _ => false

/-- A batch has a report or is refused. -/
def Answered (settings : Settings) (given : Option Int) (batch : List Span) : Prop :=
  isAnswer (analyze settings given batch)

/-- From answers, the reports are collected with their positions. -/
lemma collectReports_of_answers {outcomes : List (Nat × Except Failure Report)}
    (h : ∀ outcome ∈ outcomes, isAnswer outcome.2) :
    collectReports outcomes =
      .ok (outcomes.filterMap fun outcome => outcome.2.toOption.map (outcome.1, ·)) := by
  induction outcomes with
  | nil => rfl
  | cons outcome outcomes ih =>
    obtain ⟨position, answer⟩ := outcome
    have hanswer := h _ List.mem_cons_self
    have hrest := ih fun other hother => h other (List.mem_cons_of_mem _ hother)
    match answer with
    | .ok report => rw [collectReports, hrest]; rfl
    | .error (.refused error) => rw [collectReports, hrest]; rfl
    | .error (.overflow _) | .error .noProcess | .error .unwritable => cases hanswer

/-- The first failure that is no answer is that of the whole, whatever comes after. -/
lemma collectReports_of_failure {before after : List (Nat × Except Failure Report)}
    {position : Nat} (hbefore : ∀ outcome ∈ before, isAnswer outcome.2)
    (hfailure : isAnswer (.error failure) = false) :
    collectReports (before ++ (position, .error failure) :: after) = .error failure := by
  induction before with
  | nil =>
    cases failure with
    | refused error => cases hfailure
    | overflow _ | noProcess | unwritable => rfl
  | cons outcome before ih =>
    obtain ⟨place, answer⟩ := outcome
    have hanswer := hbefore _ List.mem_cons_self
    have hrest := ih fun other hother => hbefore other (List.mem_cons_of_mem _ hother)
    match answer with
    | .ok report => rw [List.cons_append, collectReports, hrest]; rfl
    | .error (.refused error) => rw [List.cons_append, collectReports, hrest]
    | .error (.overflow _) | .error .noProcess | .error .unwritable => cases hanswer

/-! ### Many batches -/

/-- Batches are analysed one by one, whatever the width of the waves is. -/
lemma analyzeBatches_eq (settings : Settings) (maxParallel given : Option Int)
    (batches : List (List Span)) :
    analyzeBatches settings maxParallel given batches =
      collectReports (batches.zipIdx.map fun batch =>
        (batch.2, analyze settings given batch.1)) := by
  rw [analyzeBatches, List.flatMap_def, ← List.map_flatten, flatten_waves]

/-- Reports are those of the batches: in the order of the positions, and at each position
that of its batch, if it has one. -/
structure Covers (settings : Settings) (given : Option Int) (batches : List (List Span))
    (reports : List (Nat × Report)) : Prop where
  ascending : reports.Pairwise fun a b => a.1 < b.1
  mem_iff : ∀ position report, (position, report) ∈ reports ↔
    ∃ batch, batches[position]? = some batch ∧ analyze settings given batch = .ok report

/-- Batches that are all answered have the reports that each of them has. -/
lemma exists_covers (maxParallel : Option Int)
    (h : ∀ batch ∈ batches, Answered settings given batch) :
    ∃ reports, analyzeBatches settings maxParallel given batches = .ok reports ∧
      Covers settings given batches reports := by
  have hpositions : batches.zipIdx.Pairwise fun a b => a.2 < b.2 := by
    rw [← List.pairwise_map, List.zipIdx_map_snd]
    exact List.pairwise_lt_range' 1
  have hanswers : ∀ batch ∈ batches.zipIdx, Answered settings given batch.1 := fun batch hbatch =>
    h _ (List.mem_of_getElem? (List.mem_zipIdx_iff_getElem?.1 hbatch))
  rw [analyzeBatches_eq, collectReports_of_answers (List.forall_mem_map.2 hanswers),
    List.filterMap_map]
  refine ⟨_, rfl, List.pairwise_filterMap.2 (hpositions.imp ?_), fun position report => ?_⟩
  · intro a b hlt entry hentry other hother
    obtain ⟨report, -, rfl⟩ := Option.map_eq_some_iff.1 hentry
    obtain ⟨report', -, rfl⟩ := Option.map_eq_some_iff.1 hother
    exact hlt
  -- an entry is made of the batch at its position, and only if this has a report
  · rw [List.mem_filterMap]
    constructor
    · rintro ⟨⟨batch, place⟩, hbatch, hentry⟩
      obtain ⟨_, hreport, hpair⟩ := Option.map_eq_some_iff.1 hentry
      obtain ⟨rfl, rfl⟩ := Prod.mk.inj hpair
      exact ⟨batch, List.mem_zipIdx_iff_getElem?.1 hbatch, toOption_eq_some_iff.1 hreport⟩
    · rintro ⟨batch, hbatch, hreport⟩
      refine ⟨(batch, position), List.mem_zipIdx_iff_getElem?.2 hbatch, ?_⟩
      exact Option.map_eq_some_iff.2 ⟨report, toOption_eq_some_iff.2 hreport, rfl⟩

/-- With another batch at one position, the reports at all others are the same. -/
lemma Covers.mem_iff_of_set {reports others : List (Nat × Report)} {position place : Nat}
    {other : List Span} (h : Covers settings given batches reports)
    (hothers : Covers settings given (batches.set position other) others) (hne : place ≠ position)
    (report : Report) : (place, report) ∈ others ↔ (place, report) ∈ reports := by
  rw [h.mem_iff, hothers.mem_iff, List.getElem?_set_ne hne.symm]

/-- A batch that is not answered fails in some way, and all before it are answered. -/
def FirstFailure (settings : Settings) (given : Option Int) (batches : List (List Span))
    (failure : Failure) : Prop :=
  ∃ before batch after, batches = before ++ batch :: after ∧
    (∀ other ∈ before, Answered settings given other) ∧
    analyze settings given batch = .error failure ∧ isAnswer (.error failure) = false

/-- Many batches fail as the first of them that is not answered. -/
lemma FirstFailure.analyzeBatches_eq_error (h : FirstFailure settings given batches failure) :
    analyzeBatches settings maxParallel given batches = .error failure := by
  obtain ⟨before, batch, after, rfl, hbefore, hbatch, hfailure⟩ := h
  rw [analyzeBatches_eq, List.zipIdx_append, List.map_append, List.zipIdx_cons, List.map_cons,
    hbatch]
  refine collectReports_of_failure ?_ hfailure
  rw [List.forall_mem_map]
  intro other hother
  exact hbefore _ (List.mem_of_getElem? (List.mem_zipIdx_iff_getElem?.1 hother))

/-- There is a first one among batches that are not all answered. -/
lemma exists_firstFailure (h : ∃ batch ∈ batches, ¬ Answered settings given batch) :
    ∃ failure, FirstFailure settings given batches failure := by
  obtain ⟨batch, hbatch, hnot⟩ := h
  cases hfind : batches.find? fun batch => !isAnswer (analyze settings given batch) with
  | none =>
    have hanswer : Answered settings given batch := by
      simpa [Answered] using List.find?_eq_none.1 hfind batch hbatch
    exact absurd hanswer hnot
  | some first =>
    obtain ⟨hfirst, before, after, rfl, hbefore⟩ := List.find?_eq_some_iff_append.1 hfind
    cases hfailure : analyze settings given first with
    | ok report =>
      rw [hfailure] at hfirst
      cases hfirst
    | error failure =>
      rw [hfailure] at hfirst
      refine ⟨failure, before, first, after, rfl, fun other hother => ?_, hfailure, ?_⟩
      · simpa [Answered] using hbefore other hother
      · simpa using hfirst

/-- Many batches fail exactly as the first of them that is not answered. -/
lemma analyzeBatches_eq_error_iff :
    analyzeBatches settings maxParallel given batches = .error failure ↔
      FirstFailure settings given batches failure := by
  refine ⟨fun herror => ?_, FirstFailure.analyzeBatches_eq_error⟩
  by_cases hall : ∀ batch ∈ batches, Answered settings given batch
  · obtain ⟨reports, hreports, -⟩ := exists_covers maxParallel hall
    rw [hreports] at herror
    cases herror
  -- the whole fails in one way only, so the given failure is that of the first
  · obtain ⟨first, hfirst⟩ := exists_firstFailure (by simpa using hall)
    rw [hfirst.analyzeBatches_eq_error] at herror
    rwa [← Except.error.inj herror]

/-- **Each batch is answered as if there were no others.** If all batches have reports or
are refused, the reports of all are those of each, at its position, however many are
analysed at a time; and putting another such batch in the place of one leaves the
reports of all others as they are. Otherwise the whole fails, exactly as the first batch
fails that has no report and is not refused. Spans of any traces come in groups by their
traces, and no group is refused for mixing traces: it is refused only for a cycle, or
for the length of runs. -/
theorem batches_answered_apart (settings : Settings) (maxParallel given : Option Int)
    (batches : List (List Span)) :
    ((∀ batch ∈ batches, Answered settings given batch) →
      ∃ reports, analyzeBatches settings maxParallel given batches = .ok reports ∧
        Covers settings given batches reports ∧
        ∀ position other, Answered settings given other →
          ∃ others, analyzeBatches settings maxParallel given (batches.set position other) =
              .ok others ∧
            ∀ place, place ≠ position → ∀ report,
              (place, report) ∈ others ↔ (place, report) ∈ reports) ∧
    ((∃ batch ∈ batches, ¬ Answered settings given batch) →
      ∃ failure, analyzeBatches settings maxParallel given batches = .error failure) ∧
    (∀ failure, analyzeBatches settings maxParallel given batches = .error failure ↔
      FirstFailure settings given batches failure) ∧
    ∀ spans, GroupedByTrace spans (groupByTrace spans) ∧
      ∀ group ∈ groupByTrace spans, ∀ error,
        analyze settings given group.2 = .error (.refused error) →
          error = .cyclic ∧ (build group.2).Cyclic ∨
            error = .badMinRun (given.getD settings.minRunLength) ∧
              given.getD settings.minRunLength < 1 := by
  refine ⟨fun hall => ?_, fun hnot => ?_, fun failure => analyzeBatches_eq_error_iff,
    fun spans => ?_⟩
  · obtain ⟨reports, hreports, hcovers⟩ := exists_covers maxParallel hall
    refine ⟨reports, hreports, hcovers, fun position other hother => ?_⟩
    have hset : ∀ batch ∈ batches.set position other, Answered settings given batch := by
      intro batch hbatch
      rcases List.mem_or_eq_of_mem_set hbatch with hmem | rfl
      · exact hall batch hmem
      · exact hother
    obtain ⟨others, hothers, hcovers'⟩ := exists_covers maxParallel hset
    exact ⟨others, hothers, fun place hne report => hcovers.mem_iff_of_set hcovers' hne report⟩
  · obtain ⟨failure, hfirst⟩ := exists_firstFailure hnot
    exact ⟨failure, hfirst.analyzeBatches_eq_error⟩
  · have hgrouped := groupedByTrace_groupByTrace spans
    exact ⟨hgrouped, fun group hgroup error => refused_of_oneTrace (hgrouped.oneTrace hgroup)⟩

/-- A read that takes one unit of time more than can be summarised. -/
def overlongRead : Span :=
  plainSpan 1 "read" 0 0 (durationLimit + 1)

/-- A cycle of parents and two traces at once are left out, and the batch between them has
its report. With a batch whose time cannot be summarised there are no reports at all. The
spans of two traces are two groups, and neither is refused for mixing traces. -/
theorem late_parent_between_refused :
    (∃ reports report,
      analyzeBatches {} (some (-3)) (some 1) [mutualParents, lateParent, readsOfTwoTraces] =
          .ok reports ∧
        analyze {} (some 1) lateParent = .ok report ∧ (1, report) ∈ reports ∧
        ∀ place other, (place, other) ∈ reports → place = 1) ∧
      analyzeBatches {} (some (-3)) (some 1) [mutualParents, [overlongRead], lateParent] =
        .error (.overflow .duration) ∧
      (groupByTrace readsOfTwoTraces).map (·.2.length) = [1, 1] ∧
      ∀ group ∈ groupByTrace readsOfTwoTraces, ∀ a b,
        analyze {} (some 1) group.2 ≠ .error (.refused (.mixedTraces a b)) := by
  have hcyclic : analyze {} (some 1) mutualParents = .error (.refused .cyclic) := by
    refine refused_of_cyclic ⟨.ofNat 16 7, by decide⟩ ?_
    by_contra hacyclic
    have hnone : (build mutualParents).isAcyclic = false := by
      cbv
    cases hnone.symm.trans ((Graph.isAcyclic_iff (linked_build mutualParents)).2 hacyclic)
  have hmixed : analyze {} (some 1) readsOfTwoTraces =
      .error (.refused (.mixedTraces (.ofNat 16 7) (.ofNat 16 8))) :=
    rfl
  obtain ⟨report, hreport⟩ : ∃ report, analyze {} (some 1) lateParent = .ok report := by
    have hacyclic : ¬ (build lateParent).Cyclic :=
      (Graph.isAcyclic_iff (linked_build lateParent)).1 (by cbv)
    obtain ⟨path, nodes, hpath, halong⟩ := Graph.exists_along (linked_build lateParent) hacyclic
    exact halong.exists_report hpath ⟨.ofNat 16 7, by decide⟩ (by decide) (by decide) (by decide)
      (by decide)
  have hoverflow : analyze {} (some 1) [overlongRead] = .error (.overflow .duration) := by
    have hone : OneTrace [overlongRead] := ⟨.ofNat 16 7, by decide⟩
    have hacyclic : ¬ (build [overlongRead]).Cyclic :=
      (Graph.isAcyclic_iff (linked_build [overlongRead])).1 (by cbv)
    obtain ⟨path, nodes, hpath, halong⟩ := Graph.exists_along (linked_build [overlongRead]) hacyclic
    obtain ⟨findings, hfindings⟩ :=
      halong.exists_findings (show 126 < 1024 by decide) (by decide) {}
    have hruns : operationRuns [overlongRead] = [⟨overlongRead, []⟩] := by cbv
    have hcompress : compress 1 [overlongRead] = .error (.overflow .duration) := by
      refine compress_eq_error (by decide) ⟨⟨overlongRead, []⟩, ?_, fun h => ?_⟩
      · rw [hruns]
        exact List.mem_singleton_self _
      · exact absurd (h overlongRead List.mem_cons_self) (by decide)
    simp only [analyze, Graph.ofSpans_of_oneTrace hone, orRefused, hpath, hfindings, bind,
      Except.bind, Option.getD_some, hcompress]
  have hall : ∀ batch ∈ [mutualParents, lateParent, readsOfTwoTraces],
      Answered {} (some 1) batch := by
    simp [Answered, hcyclic, hreport, hmixed, isAnswer]
  obtain ⟨hanswers, -, -, hgroups⟩ := batches_answered_apart {} (some (-3)) (some 1)
    [mutualParents, lateParent, readsOfTwoTraces]
  obtain ⟨reports, hreports, hcovers, -⟩ := hanswers hall
  obtain ⟨-, -, hfails, -⟩ := batches_answered_apart {} (some (-3)) (some 1)
    [mutualParents, [overlongRead], lateParent]
  refine ⟨⟨reports, report, hreports, hreport, ?_, ?_⟩, ?_, by decide, ?_⟩
  · exact (hcovers.mem_iff 1 report).2 ⟨lateParent, rfl, hreport⟩
  · intro place other hother
    obtain ⟨batch, hbatch, hok⟩ := (hcovers.mem_iff place other).1 hother
    rcases place with _ | _ | _ | _
    · obtain rfl := Option.some.inj hbatch
      cases hcyclic.symm.trans hok
    · rfl
    · obtain rfl := Option.some.inj hbatch
      cases hmixed.symm.trans hok
    · cases hbatch
  · refine (hfails _).2 ⟨[mutualParents], [overlongRead], [lateParent], rfl, ?_, hoverflow, rfl⟩
    exact fun other hother => hall other (List.mem_of_mem_take (i := 1) hother)
  · intro group hgroup a b hrefused
    have hreason := (hgroups readsOfTwoTraces).2 group hgroup _ hrefused
    rcases hreason with ⟨heq, -⟩ | ⟨heq, -⟩ <;> cases heq

end CausalTrace
