/-
The report about one batch of spans, and about many batches.

* `Report`: the counts of the graph, the critical path, the findings and
  the compression of a batch, and a summary in words;
* `analyze`: the report about a batch, or the reason why there is none;
* `groupByTrace`: the spans of each trace, in the order in which the
  traces come;
* `analyzeBatches`: the reports about many batches; batches that are
  refused have none.
-/
import CausalTrace.Compression
import CausalTrace.Detection

namespace CausalTrace

/-- The critical path in a report. -/
structure PathSummary where
  names : List String
  nodes : List Int
  total : Int
  traceDuration : Int
  percentage : Binary64
  bottleneckNode : Option Int
  bottleneckName : Option String
  bottleneckDuration : Option Int
deriving DecidableEq

/-- The compression in a report. -/
structure CompressionSummary where
  givenCount : Int
  segmentCount : Nat
  uncompressedCount : Nat
  ratio : Binary64
  savings : Binary64
  compressedSpans : Int
  tightSegments : Nat
deriving DecidableEq

/-- The report about a batch of spans. -/
structure Report where
  traceId : String
  spanCount : Nat
  edgeCount : Nat
  rootCount : Nat
  orphanCount : Nat
  criticalPath : PathSummary
  findings : List Finding
  compression : CompressionSummary
  severity : Severity
  summary : String
deriving DecidableEq

/-- The greatest severity of some findings, low if there are none. -/
def overallSeverity (findings : List Finding) : Severity :=
  findings.foldl (fun worst finding => worst.heavier finding.severity) .low

/-- A value rounded to decimal places. -/
def rounded (places : Int) (value : Binary64) : Except Overflow Binary64 :=
  match value.roundTo? places with
  | some value => .ok value
  | none => .error .rounded

/-- The critical path of a graph as it stands in a report. -/
def summarizePath (settings : Settings) (g : Graph) (path : CriticalPath) :
    Except Overflow PathSummary := do
  let traceDuration : Int := g.totalDuration
  let percentage ← rounded settings.roundPlaces (← path.percentageOf traceDuration)
  let bottleneck := path.longest?
  return {
      names := path.names
      nodes := path.path
      total := path.total
      traceDuration
      percentage
      bottleneckNode := bottleneck.map (·.1)
      bottleneckName := (bottleneck.bind fun entry => g.span? entry.1).map (·.name)
      bottleneckDuration := bottleneck.map (·.2) }

/-- The compression of a batch as it stands in a report. -/
def summarizeCompression (settings : Settings) (c : Compressed) :
    Except Overflow CompressionSummary := do
  let ratio ← rounded settings.roundPlaces (← c.ratio)
  let savings ← rounded settings.roundPlaces (← c.savings)
  return {
      givenCount := c.givenCount
      segmentCount := c.segments.length
      uncompressedCount := c.uncompressed.length
      ratio
      savings
      compressedSpans := c.compressedSpans
      tightSegments := c.segments.countP (Segment.isTight settings.loop.medium) }

/-- The parts of a summary in words, if the total time of the path is not
too long. -/
def summaryParts? (path : PathSummary) (findings : List Finding)
    (compression : CompressionSummary) : Option (List String) := do
  let pathPart ←
    if path.names.isEmpty then some []
    else (writeInteger? path.total).map fun total =>
      ["critical path of " ++ toString path.names.length ++ " span(s), " ++ total ++ "ns"]
  let bottleneckPart :=
    match path.bottleneckName with
    | some name => if name.isEmpty then [] else ["bottleneck '" ++ name ++ "'"]
    | none => []
  let findingsPart :=
    if findings.isEmpty then []
    else [toString findings.length ++ " anti-pattern(s): " ++
      ", ".intercalate (findings.map (·.name)).eraseDups]
  let compressionPart :=
    if compression.segmentCount = 0 then []
    else ["compression " ++ compression.ratio.fixed 1 ++ "x"]
  return pathPart ++ bottleneckPart ++ findingsPart ++ compressionPart

/-- The summary in words, if the total time of the path is not too
long. -/
def summarize? (path : PathSummary) (findings : List Finding)
    (compression : CompressionSummary) (severity : Severity) : Option String :=
  (summaryParts? path findings compression).map fun parts =>
    if parts.isEmpty then "No spans to analyze."
    else "[" ++ severity.capitals ++ "] " ++ " | ".intercalate parts ++ "."

/-- The report about a batch. Runs are compressed from the given length
on, or else from that of the settings. -/
def analyze (settings : Settings) (minRun : Option Int) (spans : List Span) :
    Except Failure Report := do
  let g ← orRefused (Graph.ofSpans spans)
  let path ← orRefused g.criticalPath
  let findings ← g.findings path settings
  let compressed ← compress (minRun.getD settings.minRunLength) spans
  let criticalPath ← orOverflow (summarizePath settings g path)
  let compression ← orOverflow (summarizeCompression settings compressed)
  let severity := overallSeverity findings
  let summary ← orUnwritable (summarize? criticalPath findings compression severity)
  return {
      traceId := (spans.head?.map (·.traceId.hex)).getD ""
      spanCount := g.size
      edgeCount := g.edgeCount
      rootCount := g.roots.length
      orphanCount := g.orphans.length
      criticalPath
      findings
      compression
      severity
      summary }

/-! ### Many batches -/

/-- The spans of each trace, the traces in the order in which they first
come. -/
def groupByTrace (spans : List Span) : List (TraceId × List Span) :=
  (spans.map (·.traceId)).eraseDups.map fun id => (id, spans.filter (·.traceId = id))

/-- A list cut into waves of a given width; a wave has at least one
element. -/
def waves {α : Type} (width : Nat) (xs : List α) : List (List α) :=
  match xs with
  | [] => []
  | x :: rest => (x :: rest.take (width - 1)) :: waves width (rest.drop (width - 1))
termination_by xs.length
decreasing_by
  simp only [List.length_drop, List.length_cons]
  omega

/-- The waves are the list, cut in pieces. -/
theorem flatten_waves {α : Type} (width : Nat) (xs : List α) : (waves width xs).flatten = xs := by
  fun_induction waves width xs with
  | case1 => rfl
  | case2 x rest ih => simp [ih]

/-- The reports out of the outcomes of all batches. A batch that is
refused has none; any other failure is that of the whole. -/
def collectReports : List (Nat × Except Failure Report) → Except Failure (List (Nat × Report))
  | [] => .ok []
  | (position, .ok report) :: rest => (collectReports rest).map ((position, report) :: ·)
  | (_, .error (.refused _)) :: rest => collectReports rest
  | (_, .error failure) :: _ => .error failure

/-- The reports about many batches by position, analysed in waves of the
given width, or else of that of the settings. -/
def analyzeBatches (settings : Settings) (maxParallel minRun : Option Int)
    (batches : List (List Span)) : Except Failure (List (Nat × Report)) :=
  let width := (maxParallel.getD settings.maxParallel).toNat
  let outcomes := (waves width batches.zipIdx).flatMap fun wave =>
    wave.map fun batch => (batch.2, analyze settings minRun batch.1)
  collectReports outcomes

end CausalTrace
