/-
Findings and their severities.

* `findings_eq_ok_iff`, `ordered_findings`: the findings of a graph are those
  of its detectors, the most severe first;
* `overallSeverity_eq`, `weight_le_overallSeverity`: **the overall severity is
  that of the first finding**, and none is more severe;
* `medium_le_of_severity?`: a value that has a severity at all has at least the
  medium one.
-/
import CausalTrace.Proofs.Failure
import CausalTrace.Proofs.StableSort
import CausalTrace.Report

namespace CausalTrace

variable {findings : List Finding}

/-! ### The findings of a graph -/

/-- The most severe finding has the lowest rank. -/
def Finding.rank (finding : Finding) : Int :=
  -finding.severity.weight

/-- A graph has findings exactly if all detectors come to an answer. -/
lemma findings_eq_ok_iff {g : Graph} {path : CriticalPath} {settings : Settings} :
    g.findings path settings = .ok findings ↔
      ∃ dominant, g.dominantProcess? path settings.dominant settings.dominantMinProcesses =
        .ok dominant ∧ ∃ transfer, g.transferBottleneck? settings settings.transfer =
          .ok transfer ∧ findings = (dominant.toList ++ g.tightLoops settings.loop ++
            transfer.toList).mergeSort fun a b => decide (a.rank ≤ b.rank) := by
  have horder : (fun a b : Finding => decide (b.severity.weight ≤ a.severity.weight)) =
      fun a b => decide (a.rank ≤ b.rank) := by
    funext a b
    exact decide_eq_decide.2 (by simp only [Finding.rank]; omega)
  simp only [Graph.findings, bind_eq_ok_iff, horder]
  simp [pure, Except.pure, eq_comm]

/-- Findings are sorted by their rank. -/
lemma ordered_findings {g : Graph} {path : CriticalPath} {settings : Settings}
    (h : g.findings path settings = .ok findings) :
    findings.Pairwise fun a b => b.severity.weight ≤ a.severity.weight := by
  obtain ⟨dominant, -, transfer, -, rfl⟩ := findings_eq_ok_iff.1 h
  refine (stablySorted_mergeSort Finding.rank _).ordered.imp fun hrank => ?_
  simp only [Finding.rank] at hrank
  omega

/-! ### The overall severity -/

/-- Nothing gets worse by findings that are not more severe. -/
lemma foldl_heavier_eq {worst : Severity}
    (h : ∀ finding ∈ findings, finding.severity.weight ≤ worst.weight) :
    findings.foldl (fun worst finding => worst.heavier finding.severity) worst = worst := by
  induction findings with
  | nil => rfl
  | cons finding findings ih =>
    have hkept : worst.heavier finding.severity = worst :=
      if_neg (Nat.not_lt.2 (h finding List.mem_cons_self))
    rw [List.foldl_cons, hkept]
    exact ih fun other hother => h other (List.mem_cons_of_mem _ hother)

/-- **The overall severity of sorted findings is that of the first**, or low. -/
lemma overallSeverity_eq
    (h : findings.Pairwise fun a b => b.severity.weight ≤ a.severity.weight) :
    overallSeverity findings = (findings.head?.map (·.severity)).getD .low := by
  cases findings with
  | nil => rfl
  | cons finding findings =>
    have hfirst : Severity.low.heavier finding.severity = finding.severity := by
      cases finding.severity <;> rfl
    rw [overallSeverity, List.foldl_cons, hfirst]
    exact foldl_heavier_eq fun other hother => List.rel_of_pairwise_cons h hother

/-- No finding is more severe than all together. -/
lemma weight_le_overallSeverity
    (h : findings.Pairwise fun a b => b.severity.weight ≤ a.severity.weight) :
    ∀ finding ∈ findings, finding.severity.weight ≤ (overallSeverity findings).weight := by
  cases findings with
  | nil => simp
  | cons first findings =>
    rw [overallSeverity_eq h, List.forall_mem_cons]
    exact ⟨Nat.le_refl _, fun finding hfinding => List.rel_of_pairwise_cons h hfinding⟩

/-- A value that has a severity at all has at least the medium one. -/
lemma medium_le_of_severity? {α : Type} {le lt : α → α → Bool} {bands : Bands α} {value : α}
    {severity : Severity} (h : bands.severity? le lt value = some severity) :
    Severity.medium.weight ≤ severity.weight := by
  rw [Bands.severity?] at h
  split_ifs at h <;> obtain rfl := Option.some.inj h <;> decide

end CausalTrace
