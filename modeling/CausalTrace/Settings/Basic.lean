/-
Settings of the analyses.

* `Settings`: the bounds, names and limits that the analyses use, each
  with its default.
-/
import CausalTrace.Severity

namespace CausalTrace

/-- The bounds, names and limits that the analyses use. -/
structure Settings where
  /-- The variable that carries the value of a clock. -/
  clockVariable : String := "TRACEWISE_LOGICAL_CLOCK"
  /-- The variables that may carry the header of a caller, first choice
  first. -/
  headerVariables : List String := ["TRACEPARENT", "OTEL_TRACEPARENT"]
  /-- Percentages of the critical path that one process takes. -/
  dominant : Bands Binary64 := ⟨.ofNat 80, .ofNat 90, .ofNat 95⟩
  /-- The least number of processes on a path before one can
  dominate. -/
  dominantMinProcesses : Int := 2
  /-- Repetitions of one operation. -/
  loop : Bands Int := ⟨1000, 10000, 100000⟩
  /-- Transfer time in percent of compute time. -/
  transfer : Bands Binary64 := ⟨.ofNat 50, .ofNat 100, .ofNat 200⟩
  /-- Names that mark a transfer. -/
  transferMarkers : List String := ["memcpy", "H2D", "D2H"]
  /-- Names that mark a computation. -/
  computeMarkers : List String := ["kernel", "GPU"]
  /-- The least length of a run that is compressed. -/
  minRunLength : Int := 10
  /-- The time between two ticks of a clock in synthetic spans. -/
  syntheticTick : Int := 1000
  /-- The most traces analysed at the same time. -/
  maxParallel : Int := 4
  /-- Decimal places of the percentages and ratios of a report. -/
  roundPlaces : Int := 4
deriving DecidableEq

end CausalTrace
