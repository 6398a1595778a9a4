/-
What an analysis goes through on its way to a report.

* `Stages`: what each stage of an analysis comes to, and the report made of it;
  `Stages.Reached`: a batch goes through these stages;
* `analyze_eq_ok_iff`: **a batch has a report exactly if it goes through all
  stages**, and the report is made of what they come to;
* `exists_eq_of_summarizePath`, `exists_eq_of_summarizeCompression`: the figures of a
  path and of a compression, as they stand in a report.
-/
import CausalTrace.Proofs.Failure
import CausalTrace.Proofs.Graph.Cycle
import CausalTrace.Report

namespace CausalTrace

open CausalTrace.Graph (OneTrace build)

variable {settings : Settings} {given : Option Int} {spans : List Span}

/-- What the stages of an analysis come to. -/
structure Stages where
  path : CriticalPath
  findings : List Finding
  compressed : Compressed
  criticalPath : PathSummary
  compression : CompressionSummary
  summary : String

namespace Stages

/-- A batch goes through the stages of an analysis, and each comes to what is
said of it. -/
structure Reached (settings : Settings) (given : Option Int) (spans : List Span)
    (stages : Stages) : Prop where
  oneTrace : OneTrace spans
  path_eq : (build spans).criticalPath = .ok stages.path
  findings_eq : (build spans).findings stages.path settings = .ok stages.findings
  compressed_eq :
    compress (given.getD settings.minRunLength) spans = .ok stages.compressed
  criticalPath_eq :
    summarizePath settings (build spans) stages.path = .ok stages.criticalPath
  compression_eq : summarizeCompression settings stages.compressed = .ok stages.compression
  summary_eq :
    summarize? stages.criticalPath stages.findings stages.compression
      (overallSeverity stages.findings) = some stages.summary

/-- The report that the stages are put together to. -/
def report (stages : Stages) (spans : List Span) : Report :=
  { traceId := (spans.head?.map (·.traceId.hex)).getD ""
    spanCount := (build spans).size
    edgeCount := (build spans).edgeCount
    rootCount := (build spans).roots.length
    orphanCount := (build spans).orphans.length
    criticalPath := stages.criticalPath
    findings := stages.findings
    compression := stages.compression
    severity := overallSeverity stages.findings
    summary := stages.summary }

end Stages

/-- A batch has a graph exactly if it is of one trace. -/
lemma ofSpans_eq_ok_iff_oneTrace {g : Graph} :
    Graph.ofSpans spans = .ok g ↔ OneTrace spans ∧ g = build spans := by
  by_cases hone : OneTrace spans
  · simp [Graph.ofSpans_of_oneTrace hone, hone, eq_comm]
  · obtain ⟨a, -, b, -, -, herror⟩ := Graph.ofSpans_of_not_oneTrace hone
    simp [herror, hone]

/-- **A batch has a report exactly if it goes through all stages.** -/
lemma analyze_eq_ok_iff {report : Report} :
    analyze settings given spans = .ok report ↔
      ∃ stages : Stages, stages.Reached settings given spans ∧ report = stages.report spans := by
  simp only [analyze, bind_eq_ok_iff, orRefused_eq_ok_iff, orOverflow_eq_ok_iff,
    orUnwritable_eq_ok_iff, ofSpans_eq_ok_iff_oneTrace]
  constructor
  · rintro ⟨g, ⟨hone, rfl⟩, path, hpath, findings, hfindings, c, hc, summary, hsummary,
      compression, hcompression, text, htext, hreport⟩
    exact ⟨⟨path, findings, c, summary, compression, text⟩,
      ⟨hone, hpath, hfindings, hc, hsummary, hcompression, htext⟩, (Except.ok.inj hreport).symm⟩
  · rintro ⟨stages, h, rfl⟩
    exact ⟨_, ⟨h.oneTrace, rfl⟩, _, h.path_eq, _, h.findings_eq, _, h.compressed_eq, _,
      h.criticalPath_eq, _, h.compression_eq, _, h.summary_eq, rfl⟩

/-- The figures of a path as they stand in a report. -/
lemma exists_eq_of_summarizePath {g : Graph} {path : CriticalPath} {summary : PathSummary}
    (h : summarizePath settings g path = .ok summary) :
    ∃ percentage, summary =
      { names := path.names
        nodes := path.path
        total := path.total
        traceDuration := g.totalDuration
        percentage
        bottleneckNode := path.longest?.map (·.1)
        bottleneckName := (path.longest?.bind fun entry => g.span? entry.1).map (·.name)
        bottleneckDuration := path.longest?.map (·.2) } := by
  simp only [summarizePath, bind_eq_ok_iff] at h
  obtain ⟨_, -, percentage, -, hsummary⟩ := h
  exact ⟨percentage, (Except.ok.inj hsummary).symm⟩

/-- The nodes in a report are those of the critical path. -/
lemma exists_nodes_eq_of_analyze {report : Report}
    (h : analyze settings given spans = .ok report) :
    ∃ path, (build spans).criticalPath = .ok path ∧ report.criticalPath.nodes = path.path := by
  obtain ⟨stages, hstages, rfl⟩ := analyze_eq_ok_iff.1 h
  obtain ⟨percentage, hsummary⟩ := exists_eq_of_summarizePath hstages.criticalPath_eq
  exact ⟨stages.path, hstages.path_eq, congrArg PathSummary.nodes hsummary⟩

/-- The figures of a compression as they stand in a report. -/
lemma exists_eq_of_summarizeCompression {c : Compressed} {summary : CompressionSummary}
    (h : summarizeCompression settings c = .ok summary) :
    ∃ ratio savings, summary =
      { givenCount := c.givenCount
        segmentCount := c.segments.length
        uncompressedCount := c.uncompressed.length
        ratio
        savings
        compressedSpans := c.compressedSpans
        tightSegments := c.segments.countP (Segment.isTight settings.loop.medium) } := by
  simp only [summarizeCompression, bind_eq_ok_iff] at h
  obtain ⟨_, -, ratio, -, _, -, savings, -, hsummary⟩ := h
  exact ⟨ratio, savings, (Except.ok.inj hsummary).symm⟩

end CausalTrace
