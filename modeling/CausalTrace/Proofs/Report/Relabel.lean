/-
Reports about a batch told with other times, clocks and identifiers.

* `Relabeling.summarizePath_build`, `Relabeling.summarizeCompression_compressed`: the
  figures of paths and of compression are the same;
* `analysis_ignores_labels`: **the whole report is the same**, or there is none for
  the same reason: it depends on which identifiers are equal, on the order of the
  clocks and on the time between times only.
-/
import CausalTrace.Proofs.Detection.Relabel
import CausalTrace.Proofs.Report.Outcome
import CausalTrace.Proofs.Report.Stages

namespace CausalTrace

open CausalTrace.Graph (OneTrace build linked_build lateParent)

namespace Relabeling

variable (r : Relabeling)

/-- A path has the same figures in a report, also that of its bottleneck. -/
lemma summarizePath_build (settings : Settings) (spans : List Span) (path : CriticalPath) :
    summarizePath settings (build (spans.map r.span)) path =
      summarizePath settings (build spans) path := by
  have hname : (path.longest?.bind fun entry => (build (spans.map r.span)).span? entry.1).map
      (·.name) = (path.longest?.bind fun entry => (build spans).span? entry.1).map (·.name) := by
    cases path.longest? with
    | none => rfl
    | some entry =>
      rw [Option.bind_some, Option.bind_some, r.span?_build, Option.map_map]
      rfl
  simp only [summarizePath, r.totalDuration_build, hname]

/-- A compression has the same figures in a report. -/
lemma summarizeCompression_compressed (settings : Settings) (c : Compressed) :
    summarizeCompression settings (r.compressed c) = summarizeCompression settings c := by
  have hkept : (r.compressed c).keptCount = c.keptCount := by
    simp [Compressed.keptCount, compressed]
  have hgiven : (r.compressed c).givenCount = c.givenCount := rfl
  have hratio : (r.compressed c).ratio = c.ratio := by
    rw [Compressed.ratio, Compressed.ratio, hkept, hgiven]
  have hspans : (r.compressed c).compressedSpans = c.compressedSpans := by
    rw [Compressed.compressedSpans, compressed, List.foldr_map]
    rfl
  have htight : (r.compressed c).segments.countP (Segment.isTight settings.loop.medium) =
      c.segments.countP (Segment.isTight settings.loop.medium) := by
    rw [compressed, List.countP_map]
    rfl
  simp only [summarizeCompression, Compressed.savings, hratio, hspans, htight]
  simp only [compressed, List.length_map]

/-- The trace that a batch begins with is the same. -/
lemma head?_traceId_map (spans : List Span) :
    (spans.map r.span).head?.map (·.traceId.hex) = spans.head?.map (·.traceId.hex) := by
  cases spans <;> rfl

end Relabeling

/-- **What a report says does not depend on when a trace begins, on what its clocks
show or on how its spans are called**: moving all times by one amount, replacing
clock values in their order and renaming identifiers one to one leaves the whole
report as it is, every node of it included. If there is none, there is none for the
same reason. -/
theorem analysis_ignores_labels (r : Relabeling) (settings : Settings) (given : Option Int)
    (spans : List Span) :
    analyze settings given (spans.map r.span) = analyze settings given spans := by
  have hnumber := r.renumbered_build spans
  have hg := linked_build spans
  have hg' := linked_build (spans.map r.span)
  rw [analyze, analyze, r.ofSpans_map, orRefused_map, bind_map_left]
  refine bind_congr_ok fun g hgraph => ?_
  obtain ⟨-, rfl⟩ := ofSpans_eq_ok_iff_oneTrace.1 (orRefused_eq_ok_iff.1 hgraph)
  rw [r.criticalPath_build]
  refine bind_congr fun path => ?_
  rw [r.findings_build]
  refine bind_congr fun findings => ?_
  rw [r.compress_map, bind_map_left]
  refine bind_congr fun c => ?_
  simp only [r.summarizePath_build, r.summarizeCompression_compressed, r.head?_traceId_map,
    hnumber.size_eq, hnumber.edgeCount_eq hg hg', hnumber.length_roots hg hg',
    hnumber.length_orphans hg hg']

/-- All times seven later, all clock values tripled, and the bytes of all identifiers
in the opposite order. -/
def Relabeling.sevenLater : Relabeling where
  shift := 7
  clock value := 3 * value
  rename id := ⟨id.bytes.reverse, by rw [List.length_reverse, id.length_eq]⟩
  clock_lt h := by omega
  rename_injective a b h := Ident.bytes_inj.1 (List.reverse_injective (congrArg Ident.bytes h))

/-- A batch and the same batch told seven later have one report, along the nodes of
one path; and the latter is refused, as the former is, if runs are to be compressed
from length zero on. -/
theorem late_parent_seven_later :
    let others := lateParent.map Relabeling.sevenLater.span
    others.map (·.startTime) = [9, 7, 7, 12] ∧ others.map (·.clock) = [3, 0, 6, 9] ∧
      others.map (·.spanId) ≠ lateParent.map (·.spanId) ∧
      (∃ report, analyze {} (some 2) lateParent = .ok report ∧
        analyze {} (some 2) others = .ok report ∧ report.criticalPath.nodes = [1, 0]) ∧
      analyze {} (some 0) others = .error (.refused (.badMinRun 0)) := by
  intro others
  have hone : OneTrace lateParent := ⟨.ofNat 16 7, by decide⟩
  have hpath := Graph.criticalPath_lateParent
  obtain ⟨nodes, halong⟩ := Graph.exists_along_of_criticalPath (linked_build lateParent) hpath
  obtain ⟨report, hreport⟩ : ∃ report, analyze {} (some 2) lateParent = .ok report :=
    halong.exists_report hpath hone (by decide) (by decide) (by decide) (by decide)
  have hothers : analyze {} (some 2) others = .ok report :=
    (analysis_ignores_labels .sevenLater {} (some 2) lateParent).trans hreport
  obtain ⟨_, heq, hnodes⟩ := exists_nodes_eq_of_analyze hreport
  obtain rfl := Except.ok.inj (hpath.symm.trans heq)
  obtain ⟨findings, hfindings⟩ := halong.exists_findings (show 126 < 1024 by decide)
    (timeTogether_lt (by decide) (by decide)) {}
  have hrefused : analyze {} (some 0) lateParent = .error (.refused (.badMinRun 0)) := by
    simp only [analyze, Graph.ofSpans_of_oneTrace hone, hpath, orRefused, hfindings, bind,
      Except.bind]
    rfl
  exact ⟨by decide, by decide, by decide, ⟨report, hreport, hothers, hnodes⟩,
    (analysis_ignores_labels .sevenLater {} (some 0) lateParent).trans hrefused⟩

end CausalTrace
