/-
What detectors answer, and that they always come to an answer when the spans of a
graph do not take too long together.

* `exists_percentage`: a part of at most 1023 binary digits has a share in percent,
  whatever the whole is;
* `ofFloat?_eq_none_iff`: a value has no severity exactly if it is not above the first
  bound; `dominantProcess?_eq_some_iff`, `dominantProcess?_eq_none_iff`,
  `transferBottleneck?_eq_none_iff`: so the share decides, once all checks pass;
* `kind_of_dominantProcess?`, `kind_of_transferBottleneck?`: each detector finds its
  own kind;
* `exists_dominantProcess?`, `exists_transferBottleneck?`: no process takes longer
  than the path, and no transfers take longer than all spans;
* `exists_findings`: **so all findings are found**.
-/
import CausalTrace.Proofs.CriticalPath.Nodes
import CausalTrace.Proofs.Detection.ProcessTime
import CausalTrace.Proofs.Detection.Share
import CausalTrace.Proofs.Failure

namespace CausalTrace

-- Powers are those of the natural numbers, whichever others are known.
attribute [local instance (high)] instPowNat

variable {digits : Nat}

/-- A part of at most 1023 binary digits has a share in percent. -/
lemma exists_percentage {part : Int} (whole : Int) (hdigits : digits < 1024)
    (h : part.natAbs < 2 ^ digits) : ∃ share, percentage part whole = .ok share := by
  rw [percentage]
  split
  · exact ⟨_, rfl⟩
  · obtain ⟨ratio, hratio⟩ := Binary64.exists_quotient? whole.toNat hdigits h
    exact ⟨ratio.mul (.ofNat 100), by rw [hratio]⟩

/-- A value has no severity exactly if it is not above the first bound. -/
lemma ofFloat?_eq_none_iff {bands : Bands Binary64} {value : Binary64} :
    bands.ofFloat? value = none ↔ value.le bands.medium := by
  rw [Bands.ofFloat?, Bands.severity?]
  split_ifs <;> simp_all

namespace Graph

variable {g : Graph} {path : CriticalPath} {nodes : List Nat} {bands : Bands Binary64}
  {minProcesses : Int}

/-! ### What detectors answer -/

/-- Nothing is found on an empty path. -/
lemma dominantProcess?_of_nil (hnil : path.path = []) :
    g.dominantProcess? path bands minProcesses = .ok none := by
  simp [dominantProcess?, CriticalPath.isEmpty, hnil]

section Leader

variable {process time : Int} (hleader : Tally.leader? (g.processTimes path.path) =
  some (process, time))
include hleader

/-- Where a process leads, its share decides, unless a check fails before. -/
lemma dominantProcess?_of_leader : g.dominantProcess? path bands minProcesses =
    if path.path = [] ∨ path.total ≤ 0 ∨ (g.processTimes path.path).length < minProcesses ∨
        time = 0 then .ok none
    else do
      let share ← orOverflow (percentage time path.total)
      return (bands.ofFloat? share).map fun severity =>
        ⟨severity, .dominantProcess process share time⟩ := by
  simp only [dominantProcess?, hleader, CriticalPath.isEmpty, Bool.or_eq_true, List.isEmpty_iff,
    decide_eq_true_eq]
  split_ifs <;> first | rfl | grind

/-- The leader is found exactly if all checks pass and its share has a severity. -/
lemma dominantProcess?_eq_some_iff {finding : Finding} :
    g.dominantProcess? path bands minProcesses = .ok (some finding) ↔
      ¬ (path.path = [] ∨ path.total ≤ 0 ∨ (g.processTimes path.path).length < minProcesses ∨
        time = 0) ∧
      ∃ share severity, percentage time path.total = .ok share ∧
        bands.ofFloat? share = some severity ∧
        finding = ⟨severity, .dominantProcess process share time⟩ := by
  rw [dominantProcess?_of_leader hleader]
  split_ifs with hchecks
  · simp [hchecks]
  · simp only [hchecks, bind_eq_ok_iff, orOverflow_eq_ok_iff, pure, Except.pure, Except.ok.injEq,
      Option.map_eq_some_iff, not_false_eq_true, true_and]
    constructor
    · rintro ⟨share, hshare, severity, hseverity, rfl⟩
      exact ⟨share, severity, hshare, hseverity, rfl⟩
    · rintro ⟨share, severity, hshare, hseverity, rfl⟩
      exact ⟨share, hshare, severity, hseverity, rfl⟩

/-- Nothing is found exactly if a check fails or the share is not above the first
bound. -/
lemma dominantProcess?_eq_none_iff :
    g.dominantProcess? path bands minProcesses = .ok none ↔
      (path.path = [] ∨ path.total ≤ 0 ∨ (g.processTimes path.path).length < minProcesses ∨
        time = 0) ∨
      ∃ share, percentage time path.total = .ok share ∧ share.le bands.medium := by
  rw [dominantProcess?_of_leader hleader]
  split_ifs with hchecks
  · simp [hchecks]
  · simp only [hchecks, bind_eq_ok_iff, orOverflow_eq_ok_iff, pure, Except.pure]
    simp [ofFloat?_eq_none_iff]

end Leader

/-- Nothing is found about transfers exactly if nothing is computed or the share is not
above the first bound. -/
lemma transferBottleneck?_eq_none_iff {settings : Settings} :
    g.transferBottleneck? settings bands = .ok none ↔ g.computeTime settings = 0 ∨
      ∃ share, percentage (g.transferTime settings) (g.computeTime settings) = .ok share ∧
        share.le bands.medium := by
  simp only [transferBottleneck?]
  split_ifs with hcompute
  · simp [hcompute]
  · simp only [hcompute, bind_eq_ok_iff, orOverflow_eq_ok_iff, pure, Except.pure]
    simp [ofFloat?_eq_none_iff]

/-! ### Kinds of findings -/

/-- What is found where a share is in a band. -/
lemma exists_of_mem_banded {share? : Except Failure Binary64}
    {make : Binary64 → Severity → Finding} {finding : Option Finding}
    (h : (do
      let share ← share?
      return (bands.ofFloat? share).map (make share)) = .ok finding) :
    ∀ found ∈ finding.toList, ∃ share severity, found = make share severity := by
  obtain ⟨share, -, hshare⟩ := bind_eq_ok_iff.1 h
  obtain rfl := Except.ok.inj hshare
  intro found hfound
  obtain ⟨severity, -, rfl⟩ := Option.map_eq_some_iff.1 (Option.mem_toList.1 hfound)
  exact ⟨share, severity, rfl⟩

/-- What is found about processes is of that kind. -/
lemma kind_of_dominantProcess? {finding : Option Finding}
    (h : g.dominantProcess? path bands minProcesses = .ok finding) :
    ∀ found ∈ finding.toList, found.kind = .dominantProcess := by
  simp only [dominantProcess?] at h
  split at h
  · cases h
    simp
  split at h
  · cases h
    simp
  split at h
  · cases h
  split at h
  · cases h
    simp
  · intro found hfound
    obtain ⟨_, _, rfl⟩ := exists_of_mem_banded h found hfound
    rfl

/-- What is found about transfers is of that kind. -/
lemma kind_of_transferBottleneck? {settings : Settings} {finding : Option Finding}
    (h : g.transferBottleneck? settings bands = .ok finding) :
    ∀ found ∈ finding.toList, found.kind = .transferBottleneck := by
  rw [transferBottleneck?] at h
  split at h
  · cases h
    simp
  · intro found hfound
    obtain ⟨_, _, rfl⟩ := exists_of_mem_banded h found hfound
    rfl

/-! ### Detectors that come to an answer -/

/-- No process takes more time on a path than the path. -/
lemma Along.le_total (h : g.Along path nodes) {process time : Int}
    (hmem : (process, time) ∈ g.processTimes path.path) : 0 ≤ time ∧ time ≤ path.total := by
  rw [processTimes_eq] at hmem
  obtain ⟨-, rfl⟩ := mem_timeByProcess_iff.1 hmem
  refine ⟨Int.natCast_nonneg _, ?_⟩
  rw [← h.timeTogether_eq]
  exact Int.ofNat_le.2 (timeTogether_filter_le _ _)

/-- A process leads on a path that is not empty. -/
lemma Along.exists_leader (h : g.Along path nodes) (hne : path.path ≠ []) :
    ∃ process time, Tally.leader? (g.processTimes path.path) = some (process, time) := by
  have htimes : g.processTimes path.path ≠ [] := by
    rw [processTimes_eq]
    exact timeByProcess_ne_nil (h.filterMap_span?_ne_nil hne)
  obtain ⟨⟨process, time⟩, hleader⟩ := Tally.exists_leader htimes
  exact ⟨process, time, hleader⟩

/-- There is always an answer about a dominant process, however long the path
takes. -/
lemma Along.exists_dominantProcess? (h : g.Along path nodes) (bands : Bands Binary64)
    (minProcesses : Int) :
    ∃ finding, g.dominantProcess? path bands minProcesses = .ok finding := by
  by_cases hnil : path.path = []
  · exact ⟨none, dominantProcess?_of_nil hnil⟩
  -- the process that leads takes no more time than the path
  obtain ⟨process, time, hleader⟩ := h.exists_leader hnil
  obtain ⟨hnonneg, htotal⟩ := h.le_total (Tally.leader?_eq_some_iff.1 hleader).1
  obtain ⟨share, hshare⟩ := exists_percentage_of_le hnonneg htotal
  rw [dominantProcess?_of_leader hleader, hshare]
  split_ifs
  · exact ⟨none, rfl⟩
  · exact ⟨_, rfl⟩

/-- There is always an answer about transfers. -/
lemma exists_transferBottleneck? (hdigits : digits < 1024)
    (htime : Span.timeTogether g.spans.toList < 2 ^ digits) (settings : Settings)
    (bands : Bands Binary64) : ∃ finding, g.transferBottleneck? settings bands = .ok finding := by
  have htransfer : g.transferTime settings ≤ Span.timeTogether g.spans.toList :=
    timeTogether_filter_le _ _
  obtain ⟨share, hshare⟩ := exists_percentage (g.computeTime settings) hdigits
    (show (g.transferTime settings : Int).natAbs < 2 ^ digits by omega)
  simp only [transferBottleneck?, hshare]
  split
  · exact ⟨none, rfl⟩
  · exact ⟨_, rfl⟩

/-- **All findings are found** along a path of a graph whose spans do not take
too long together. -/
lemma Along.exists_findings (h : g.Along path nodes) (hdigits : digits < 1024)
    (htime : Span.timeTogether g.spans.toList < 2 ^ digits) (settings : Settings) :
    ∃ findings, g.findings path settings = .ok findings := by
  obtain ⟨dominant, hdominant⟩ :=
    h.exists_dominantProcess? settings.dominant settings.dominantMinProcesses
  obtain ⟨transfer, htransfer⟩ := exists_transferBottleneck? hdigits htime settings
    settings.transfer
  rw [findings, hdominant, htransfer]
  exact ⟨_, rfl⟩

end Graph
end CausalTrace
