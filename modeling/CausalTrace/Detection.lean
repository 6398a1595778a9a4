/-
Detectors: what stands out in a causal graph and its critical path.

* `Graph.dominantProcess?`: one process takes most of the critical path;
* `Repetition`: an operation that is being repeated; `Graph.tightLoops`: one operation
  is repeated over and over;
* `Graph.transferBottleneck?`: transfers take long beside computation;
* `Graph.findings`, `Graph.findingsAlong`: all findings, the most severe first,
  for a path that is given or else the critical path.
-/
import CausalTrace.CriticalPath
import CausalTrace.Finding
import CausalTrace.Settings.Basic

namespace CausalTrace

/-- Whether a text occurs in another. -/
def occursIn (part : List Char) : List Char → Bool
  | [] => part.isEmpty
  | c :: rest => part.isPrefixOf (c :: rest) || occursIn part rest

/-- Whether one of some markers occurs in a name. -/
def isMarked (markers : List String) (name : String) : Bool :=
  markers.any fun marker => occursIn marker.toList name.toList

/-! ### Repetitions -/

/-- An operation that is being repeated: how often and for how long so far, and the
first and the last node of it. -/
structure Repetition where
  name : String
  count : Nat
  duration : Nat
  first : Nat
  last : Nat

namespace Repetition

/-- An operation comes for the first time. -/
def start (entry : Span × Nat) : Repetition :=
  { name := entry.1.name, count := 1, duration := entry.1.duration
    first := entry.2, last := entry.2 }

/-- The operation comes once more. -/
def goOn (r : Repetition) (entry : Span × Nat) : Repetition :=
  { r with count := r.count + 1, duration := r.duration + entry.1.duration, last := entry.2 }

/-- The finding about a repetition, if it is long enough. -/
def finding? (bands : Bands Int) (r : Repetition) : Option Finding :=
  (bands.ofInt? r.count).map fun severity =>
    ⟨severity, .tightLoop r.name r.count r.duration r.first r.last⟩

/-- Closes a repetition, if one is going on, and adds the finding about it to the
others. -/
def close (bands : Bands Int) (current : Option Repetition) (found : Array Finding) :
    Array Finding :=
  match current.bind (finding? bands) with
  | some finding => found.push finding
  | none => found

/-- Looks at the next node: the repetition goes on, or it is closed and another one
starts. -/
def next (bands : Bands Int) (state : Option Repetition × Array Finding) (entry : Span × Nat) :
    Option Repetition × Array Finding :=
  match state.1 with
  | some r =>
    if entry.1.name = r.name then (some (r.goOn entry), state.2)
    else (some (start entry), close bands (some r) state.2)
  | none => (some (start entry), state.2)

end Repetition

namespace Graph

/-! ### Dominant processes -/

/-- The time that each process takes on a path, in the order in which the
processes come. Numbers that are no nodes take no time. -/
def processTimes (g : Graph) (path : List Int) : List (Int × Int) :=
  (path.filterMap g.span?).foldl
    (fun times span => Keyed.update span.process 0 (· + (span.duration : Int)) times) []

/-- The process that takes the most time on a path, if enough processes
are on it and its share is above the bands. -/
def dominantProcess? (g : Graph) (path : CriticalPath) (bands : Bands Binary64)
    (minProcesses : Int) : Except Failure (Option Finding) :=
  if path.isEmpty || path.total ≤ 0 then .ok none
  else
    let times := g.processTimes path.path
    if times.length < minProcesses then .ok none
    else
      match Tally.leader? times with
      | none => .error .noProcess
      | some (process, duration) =>
        if duration = 0 then .ok none
        else do
          let share ← orOverflow (percentage duration path.total)
          return (bands.ofFloat? share).map fun severity =>
            ⟨severity, .dominantProcess process share duration⟩

/-! ### Tight loops -/

/-- The spans with their nodes, in the order of their clocks; equal
clocks keep the order of the nodes. -/
def byClock (g : Graph) : List (Span × Nat) :=
  g.spans.toList.zipIdx.mergeSort fun a b => decide (a.1.clock ≤ b.1.clock)

/-- The operations that are repeated without another in between. The last repetition
has no successor that closes it. -/
def tightLoops (g : Graph) (bands : Bands Int) : List Finding :=
  let (current, found) := g.byClock.foldl (Repetition.next bands) (none, #[])
  (Repetition.close bands current found).toList

/-! ### Transfer bottlenecks -/

/-- The time of all spans whose names pass a test. -/
def timeOf (g : Graph) (test : String → Bool) : Nat :=
  Span.timeTogether (g.spans.toList.filter fun span => test span.name)

/-- The time of all transfers. -/
def transferTime (g : Graph) (settings : Settings) : Nat :=
  g.timeOf (isMarked settings.transferMarkers)

/-- The time of all computations that are not transfers. -/
def computeTime (g : Graph) (settings : Settings) : Nat :=
  g.timeOf fun name =>
    !isMarked settings.transferMarkers name && isMarked settings.computeMarkers name

/-- The transfers, if their time in percent of the compute time is above
the bands. -/
def transferBottleneck? (g : Graph) (settings : Settings) (bands : Bands Binary64) :
    Except Failure (Option Finding) :=
  let transfer := g.transferTime settings
  let compute := g.computeTime settings
  if compute = 0 then .ok none
  else do
    let share ← orOverflow (percentage transfer compute)
    return (bands.ofFloat? share).map fun severity =>
      ⟨severity, .transferBottleneck transfer compute share⟩

/-! ### All findings -/

/-- All findings about a graph and a path, the most severe first; among
equals the dominant process, then the loops in the order of the clocks,
then the transfers. -/
def findings (g : Graph) (path : CriticalPath) (settings : Settings) :
    Except Failure (List Finding) := do
  let dominant ← g.dominantProcess? path settings.dominant settings.dominantMinProcesses
  let loops := g.tightLoops settings.loop
  let transfer ← g.transferBottleneck? settings settings.transfer
  let all := dominant.toList ++ loops ++ transfer.toList
  return all.mergeSort fun a b => decide (b.severity.weight ≤ a.severity.weight)

/-- All findings about a graph and a path from outside, or else its
critical path. -/
def findingsAlong (g : Graph) (path : Option CriticalPath) (settings : Settings) :
    Except Failure (List Finding) :=
  match path with
  | some path => g.findings path settings
  | none => orRefused g.criticalPath >>= fun path => g.findings path settings

end Graph
end CausalTrace
