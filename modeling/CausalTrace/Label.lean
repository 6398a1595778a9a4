/-
Closed sets of labels: kinds of spans, outcomes of spans and kinds of
patterns, with the codes and names by which they are known outside.

* `LabelKey`: a value from outside that asks for a label;
* `UnknownLabel`: a value that belongs to no label of a set;
* `SpanKind`, `SpanStatus`: labels with a number as their code;
* `PatternKind`: labels with a name as their code;
* `SpanKind.ofCode_code`, `SpanStatus.ofCode_code`,
  `PatternKind.ofName_name`: a label is the label of its code.
-/
import CausalTrace.Text.Quoted

namespace CausalTrace

/-- A value from outside that asks for a label. -/
inductive LabelKey where
  | null
  | truth (value : Bool)
  | number (value : Int)
  | text (value : String)
deriving DecidableEq, Repr

namespace LabelKey

/-- The value as messages show it. -/
def shown : LabelKey → String
  | null => "None"
  | truth true => "True"
  | truth false => "False"
  | number value => toString value
  | text value => String.ofList (quoted value.toList)

/-- What kind of value it is, as messages name it. -/
def kindName : LabelKey → String
  | null => "NoneType"
  | truth _ => "bool"
  | number _ => "int"
  | text _ => "str"

/-- The number that is asked for; truth values count as one and zero. -/
def number? : LabelKey → Option Int
  | number value => some value
  | truth value => some value.toInt
  | _ => none

/-- The name that is asked for. -/
def text? : LabelKey → Option String
  | text value => some value
  | _ => none

end LabelKey

/-- A value that belongs to no label of a set. -/
structure UnknownLabel where
  key : LabelKey
  set : String
deriving DecidableEq, Repr

/-- The message of an unknown label. -/
def UnknownLabel.message (e : UnknownLabel) : String :=
  e.key.shown ++ " is not a valid " ++ e.set

/-- The first label of a set that a key asks for. -/
def labelOf {α : Type} (set : String) (labels : List α) (isAsked : α → Bool) (key : LabelKey) :
    Except UnknownLabel α :=
  match labels.find? isAsked with
  | some label => .ok label
  | none => .error ⟨key, set⟩

/-! ### Spans -/

/-- The role of a span in a remote call. -/
inductive SpanKind where
  | internal
  | server
  | client
  | producer
  | consumer
deriving DecidableEq, Repr

namespace SpanKind

/-- All kinds in the order of their codes. -/
def all : List SpanKind := [internal, server, client, producer, consumer]

/-- The code of a kind. -/
def code : SpanKind → Nat
  | internal => 0
  | server => 1
  | client => 2
  | producer => 3
  | consumer => 4

/-- The name of a kind. -/
def name : SpanKind → String
  | internal => "internal"
  | server => "server"
  | client => "client"
  | producer => "producer"
  | consumer => "consumer"

/-- The kind that a key asks for by its code. -/
def ofKey (key : LabelKey) : Except UnknownLabel SpanKind :=
  labelOf "SpanKind" all (fun kind => key.number? = some (kind.code : Int)) key

/-- The kind with a code. -/
def ofCode (code : Int) : Except UnknownLabel SpanKind :=
  ofKey (.number code)

/-- A kind is the kind of its code. -/
theorem ofCode_code (kind : SpanKind) : ofCode kind.code = .ok kind := by
  cases kind <;> rfl

end SpanKind

/-- How the operation of a span ended. -/
inductive SpanStatus where
  | unset
  | ok
  | error
deriving DecidableEq, Repr

namespace SpanStatus

/-- All outcomes in the order of their codes. -/
def all : List SpanStatus := [unset, ok, error]

/-- The code of an outcome. -/
def code : SpanStatus → Nat
  | unset => 0
  | ok => 1
  | error => 2

/-- The name of an outcome. -/
def name : SpanStatus → String
  | unset => "unset"
  | ok => "ok"
  | error => "error"

/-- The outcome that a key asks for by its code. -/
def ofKey (key : LabelKey) : Except UnknownLabel SpanStatus :=
  labelOf "StatusCode" all (fun status => key.number? = some (status.code : Int)) key

/-- The outcome with a code. -/
def ofCode (code : Int) : Except UnknownLabel SpanStatus :=
  ofKey (.number code)

/-- An outcome is the outcome of its code. -/
theorem ofCode_code (status : SpanStatus) : ofCode status.code = .ok status := by
  cases status <;> rfl

end SpanStatus

/-! ### Findings -/

/-- What kind of pattern a finding reports. -/
inductive PatternKind where
  | dominantProcess
  | tightLoop
  | transferBottleneck
deriving DecidableEq, Repr

namespace PatternKind

/-- All kinds of patterns. -/
def all : List PatternKind := [dominantProcess, tightLoop, transferBottleneck]

/-- The name of a kind of pattern. -/
def name : PatternKind → String
  | dominantProcess => "dominant_process"
  | tightLoop => "tight_loop"
  | transferBottleneck => "transfer_bottleneck"

/-- The kind of pattern that a key asks for by its name. -/
def ofKey (key : LabelKey) : Except UnknownLabel PatternKind :=
  labelOf "PatternKind" all (fun kind => key.text? = some kind.name) key

/-- The kind of pattern with a name. -/
def ofName (text : String) : Except UnknownLabel PatternKind :=
  ofKey (.text text)

/-- A kind of pattern is the kind of its name. -/
theorem ofName_name (kind : PatternKind) : ofName kind.name = .ok kind := by
  cases kind <;> rfl

end PatternKind
end CausalTrace
