/-
Why an analysis fails.

* `TraceError`: the spans or the request cannot be analysed;
* `Overflow`: a number is beyond the range of its form;
* `Failure`: either of the two, a path without any process, or a number
  too long to be put into words;
* `percentage`: a part of a whole in percent, the first place where a
  number can be too large.
-/
import CausalTrace.Ident
import CausalTrace.Number.Binary64
import CausalTrace.Text.Numeral

namespace CausalTrace

/-- The spans or the request cannot be analysed. -/
inductive TraceError where
  | mixedTraces (expected got : TraceId)
  | cyclic
  | badMinRun (given : Int)
deriving DecidableEq

/-- The message of a trace error. -/
def TraceError.message : TraceError → String
  | mixedTraces expected got =>
    "All spans must have same trace_id. Expected " ++ expected.hex ++ ", got " ++ got.hex
  | cyclic => "Graph contains cycles - cannot compute critical path"
  | badMinRun given => "min_run_length must be >= 1, got " ++ toString given

/-- A number is beyond the range of its form. -/
inductive Overflow where
  | quotient
  | integer
  | duration
  | rounded
deriving DecidableEq, Repr

/-- The message of an overflow. -/
def Overflow.message : Overflow → String
  | quotient => "integer division result too large for a float"
  | integer => "int too large to convert to float"
  | duration => "Python int too large to convert to C long"
  | rounded => "rounded value too large to represent"

/-- Why an analysis fails. A path from outside may name only nodes that
the graph does not have, and then no process is on it. A sum of times may
have more digits than a numeral. -/
inductive Failure where
  | refused (error : TraceError)
  | overflow (error : Overflow)
  | noProcess
  | unwritable
deriving DecidableEq

/-- The message of a failure. -/
def Failure.message : Failure → String
  | refused error => error.message
  | overflow error => error.message
  | noProcess => "max() arg is an empty sequence"
  | unwritable => unwritableMessage

/-- A result that can only overflow, as a result that can fail. -/
def orOverflow {α : Type} : Except Overflow α → Except Failure α
  | .ok value => .ok value
  | .error error => .error (.overflow error)

/-- A result that can only be refused, as a result that can fail. -/
def orRefused {α : Type} : Except TraceError α → Except Failure α
  | .ok value => .ok value
  | .error error => .error (.refused error)

/-- A text that cannot be put together if a number in it is too long, as a
result that can fail. -/
def orUnwritable : Option String → Except Failure String
  | some text => .ok text
  | none => .error .unwritable

/-- A part of a whole in percent, rounded after the division and again
after the multiplication; nothing is zero percent of nothing. -/
def percentage (part whole : Int) : Except Overflow Binary64 :=
  if whole ≤ 0 then .ok (.zero false)
  else
    match Binary64.quotient? part whole.toNat with
    | some ratio => .ok (ratio.mul (.ofNat 100))
    | none => .error .quotient

end CausalTrace
