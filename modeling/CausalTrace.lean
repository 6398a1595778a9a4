import CausalTrace.Attribute.Basic
import CausalTrace.Attribute.Text
import CausalTrace.Attribute.Token
import CausalTrace.Clock.Basic
import CausalTrace.Clock.Network
import CausalTrace.Clock.Propagation
import CausalTrace.Compression
import CausalTrace.CriticalPath
import CausalTrace.Detection
import CausalTrace.Environment
import CausalTrace.Failure
import CausalTrace.Field
import CausalTrace.Finding
import CausalTrace.Graph.Basic
import CausalTrace.Graph.Sweep
import CausalTrace.Ident
import CausalTrace.Keyed
import CausalTrace.Label
import CausalTrace.Number.Binary64
import CausalTrace.Number.Decimal
import CausalTrace.Number.Rounding
import CausalTrace.Number.Shortest
import CausalTrace.Proofs.Attribute.Canonical
import CausalTrace.Proofs.Attribute.Quoted
import CausalTrace.Proofs.Attribute.RoundTrip
import CausalTrace.Proofs.Attribute.Token
import CausalTrace.Proofs.Attribute.Value
import CausalTrace.Proofs.Clock.Causality
import CausalTrace.Proofs.Clock.Exchange
import CausalTrace.Proofs.Clock.Step
import CausalTrace.Proofs.Compression.Expansion
import CausalTrace.Proofs.Compression.Restore
import CausalTrace.Proofs.Compression.RoundTrip
import CausalTrace.Proofs.Compression.Segments
import CausalTrace.Proofs.Compression.SyntheticId
import CausalTrace.Proofs.Compression.Total
import CausalTrace.Proofs.Compression.Traces
import CausalTrace.Proofs.CriticalPath.Bottleneck
import CausalTrace.Proofs.CriticalPath.Chain
import CausalTrace.Proofs.CriticalPath.Extension
import CausalTrace.Proofs.CriticalPath.Leaves
import CausalTrace.Proofs.CriticalPath.Longest
import CausalTrace.Proofs.CriticalPath.Near
import CausalTrace.Proofs.CriticalPath.Nodes
import CausalTrace.Proofs.CriticalPath.Order
import CausalTrace.Proofs.CriticalPath.Renumber
import CausalTrace.Proofs.Detection.Dominant
import CausalTrace.Proofs.Detection.Loop
import CausalTrace.Proofs.Detection.Outcome
import CausalTrace.Proofs.Detection.ProcessTime
import CausalTrace.Proofs.Detection.Ranking
import CausalTrace.Proofs.Detection.Relabel
import CausalTrace.Proofs.Detection.Reorder
import CausalTrace.Proofs.Detection.Repetition
import CausalTrace.Proofs.Detection.Scan
import CausalTrace.Proofs.Detection.Severity
import CausalTrace.Proofs.Detection.Share
import CausalTrace.Proofs.Detection.Threshold
import CausalTrace.Proofs.Detection.Transfer
import CausalTrace.Proofs.Failure
import CausalTrace.Proofs.Graph.Build
import CausalTrace.Proofs.Graph.Cycle
import CausalTrace.Proofs.Graph.Descendants
import CausalTrace.Proofs.Graph.Edge
import CausalTrace.Proofs.Graph.Forward
import CausalTrace.Proofs.Graph.Origin
import CausalTrace.Proofs.Graph.Relabel
import CausalTrace.Proofs.Graph.Renumber
import CausalTrace.Proofs.Graph.Reorder
import CausalTrace.Proofs.Graph.Search
import CausalTrace.Proofs.Graph.Views
import CausalTrace.Proofs.Number.Monotone
import CausalTrace.Proofs.Number.Range
import CausalTrace.Proofs.Recorder.Session
import CausalTrace.Proofs.Recorder.Step
import CausalTrace.Proofs.Relabeling
import CausalTrace.Proofs.Report.Balance
import CausalTrace.Proofs.Report.Batches
import CausalTrace.Proofs.Report.Grouping
import CausalTrace.Proofs.Report.Outcome
import CausalTrace.Proofs.Report.Refusal
import CausalTrace.Proofs.Report.Relabel
import CausalTrace.Proofs.Report.Reorder
import CausalTrace.Proofs.Report.Stages
import CausalTrace.Proofs.Report.TightLoops
import CausalTrace.Proofs.Run
import CausalTrace.Proofs.Run.Nested
import CausalTrace.Proofs.StableSort
import CausalTrace.Proofs.Text.Hex
import CausalTrace.Proofs.Text.Numeral
import CausalTrace.Proofs.Text.NumeralForm
import CausalTrace.Proofs.Time
import CausalTrace.Proofs.TraceHeader.Environment
import CausalTrace.Proofs.TraceHeader.Field
import CausalTrace.Proofs.TraceHeader.Form
import CausalTrace.Recorder
import CausalTrace.Report
import CausalTrace.Run
import CausalTrace.Settings.Basic
import CausalTrace.Settings.Load
import CausalTrace.Severity
import CausalTrace.Span
import CausalTrace.Tally
import CausalTrace.Text.Blank
import CausalTrace.Text.DecimalDigit
import CausalTrace.Text.Hex
import CausalTrace.Text.Numeral
import CausalTrace.Text.Printable
import CausalTrace.Text.Quoted
import CausalTrace.TraceHeader
