/-
Run-length compression of spans: maximal runs of equal operations become
segments, and segments expand into synthetic spans.

* `Segment.summary`, `Segment.ofRun`: the summary of a run; its total is
  kept in 64 bits;
* `compress`: the segments of all runs that are long enough, and the
  spans of the others;
* `Segment.expand`: the synthetic spans of a segment;
* `Compressed.decompress`: all spans, those of segments synthetic.
-/
import CausalTrace.Failure
import CausalTrace.Run
import CausalTrace.Span

namespace CausalTrace

-- Powers are those of the natural numbers, whichever others are known.
attribute [local instance (high)] instPowNat

/-- The summary of a run of equal operations. -/
structure Segment where
  operation : String
  count : Int
  startClock : Int
  endClock : Int
  total : Int
  average : Int
  shortest : Int
  longest : Int
  attributes : String
  process : Int
  thread : Int
  traceId : List UInt8
deriving DecidableEq

/-- Segments, the spans that are in none, and the number of spans that
both were made of. -/
structure Compressed where
  segments : List Segment := []
  uncompressed : List Span := []
  givenCount : Int := 0
deriving DecidableEq

/-! ### Compressing -/

/-- What the spans of a run have in common. Attributes count as equal
only if they are written alike. -/
structure Operation where
  name : String
  process : Int
  thread : Int
  attributes : String
deriving DecidableEq

/-- The operation of a span. -/
def Span.operation (span : Span) : Operation :=
  ⟨span.name, span.process, span.thread, span.attributes⟩

/-- The greatest duration that a segment can sum up. -/
def durationLimit : Nat := 2 ^ (63 : Nat) - 1

/-- A number in 64 bits, the upper half of the range negative. -/
def wrap64 (n : Int) : Int :=
  Int.bmod n (2 ^ (64 : Nat))

namespace Segment

/-- The summary of a run. -/
def summary (run : Run Span) : Segment :=
  let durations := run.toList.map Span.duration
  let total := wrap64 (Span.timeTogether run.toList)
  let first := run.first
  { operation := first.name
    count := run.length
    startClock := first.clock
    endClock := run.last.clock
    total
    average := Int.fdiv total run.length
    shortest := (durations.foldl min first.duration : Nat)
    longest := (durations.foldl max first.duration : Nat)
    attributes := first.attributes
    process := first.process
    thread := first.thread
    traceId := first.traceId.bytes }

/-- The summary of a run whose durations are all within the limit. -/
def ofRun (run : Run Span) : Except Overflow Segment :=
  if run.toList.any fun span => durationLimit < span.duration then .error .duration
  else .ok (summary run)

/-- How many spans one segment stands for. -/
def ratio (segment : Segment) : Except Overflow Binary64 :=
  match Binary64.ofInt? segment.count with
  | some ratio => .ok ratio
  | none => .error .integer

/-- The spread of the durations. -/
def spread (segment : Segment) : Int :=
  max (segment.longest - segment.shortest) 0

/-- Whether the segment is a tight loop. -/
def isTight (threshold : Int) (segment : Segment) : Bool :=
  threshold < segment.count

end Segment

/-- Spans in the order of their clocks, equal clocks as they came. -/
def sortByClock (spans : List Span) : List Span :=
  spans.mergeSort fun a b => decide (a.clock ≤ b.clock)

/-- The maximal runs of equal operations in the order of the clocks. -/
def operationRuns (spans : List Span) : List (Run Span) :=
  cut (fun first other => other.operation = first.operation) (sortByClock spans)

/-- The runs that have at least a given length. -/
def longRuns (minRun : Int) (runs : List (Run Span)) : List (Run Span) :=
  runs.filter fun run => minRun ≤ run.length

/-- The runs that are shorter. -/
def shortRuns (minRun : Int) (runs : List (Run Span)) : List (Run Span) :=
  runs.filter fun run => run.length < minRun

/-- Compresses the runs that have at least a given length. -/
def compress (minRun : Int) (spans : List Span) : Except Failure Compressed :=
  if minRun < 1 then .error (.refused (.badMinRun minRun))
  else do
    let runs := operationRuns spans
    let segments ← orOverflow ((longRuns minRun runs).mapM Segment.ofRun)
    return {
        segments
        uncompressed := (shortRuns minRun runs).flatMap Run.toList
        givenCount := spans.length }

/-! ### Figures -/

namespace Compressed

/-- The number of segments and spans that are kept. -/
def keptCount (c : Compressed) : Nat :=
  c.segments.length + c.uncompressed.length

/-- How many spans there were for each that is kept. -/
def ratio (c : Compressed) : Except Overflow Binary64 :=
  if c.keptCount = 0 then .ok (.ofNat 1)
  else
    match Binary64.quotient? c.givenCount c.keptCount with
    | some ratio => .ok ratio
    | none => .error .quotient

/-- The part of the storage that is saved, in percent, given the
ratio. -/
def savingsAt (ratio : Binary64) : Binary64 :=
  let one := Binary64.ofNat 1
  if ratio.le one then .zero false else ((ratio.sub one).div ratio).mul (.ofNat 100)

/-- The part of the storage that is saved, in percent. -/
def savings (c : Compressed) : Except Overflow Binary64 :=
  c.ratio.map savingsAt

/-- The number of spans that segments stand for. -/
def compressedSpans (c : Compressed) : Int :=
  c.segments.foldr (fun segment count => segment.count + count) 0

/-- The number of spans that segments and spans stand for. -/
def totalSpans (c : Compressed) : Int :=
  c.compressedSpans + c.uncompressed.length

end Compressed

/-! ### Expanding -/

/-- The number of values that a synthetic span identifier can take: all
but zero. -/
def syntheticIds : Nat := 2 ^ (64 : Nat) - 1

/-- The identifier of the synthetic span with a clock value. It is never
zero, and clocks closer together than the number of identifiers get
different ones. -/
def syntheticId (clock : Int) : List UInt8 :=
  Ident.bytesOfNat 8 ((clock % syntheticIds).toNat + 1)

namespace Segment

/-- The synthetic span at a position in a segment. Ticks of the clock are
`tick` apart. -/
def synthetic (tick : Int) (segment : Segment) (position : Nat) : Except SpanError Span :=
  let clock := segment.startClock + position
  Span.create segment.traceId (syntheticId clock) none
    { name := segment.operation
      startTime := clock * tick
      endTime := clock * tick + segment.average
      clock
      process := segment.process
      thread := segment.thread
      status := .ok
      attributes := segment.attributes }

/-- The synthetic spans of a segment; none for a count that is not
positive. -/
def expand (tick : Int) (segment : Segment) : Except SpanError (List Span) :=
  (List.range segment.count.toNat).mapM (segment.synthetic tick)

end Segment

/-- All spans in the order of their clocks, those of segments
synthetic. -/
def Compressed.decompress (tick : Int) (c : Compressed) : Except SpanError (List Span) := do
  let synthetic ← c.segments.mapM (Segment.expand tick)
  return sortByClock (c.uncompressed ++ synthetic.flatten)

end CausalTrace
