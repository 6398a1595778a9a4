/-
Severities: how much a finding matters.

* `Severity.weight`: the rank by which severities compare;
* `Bands`: the bounds above which a value counts as medium, high and
  critical;
* `Bands.severity?`: the severity of a value, or none below the first
  bound;
* `Severity.compareText`: severities beside plain text compare by name.
-/
import CausalTrace.Label
import CausalTrace.Number.Binary64

namespace CausalTrace

/-- How much a finding matters. -/
inductive Severity where
  | low
  | medium
  | high
  | critical
deriving DecidableEq, Repr

namespace Severity

/-- All severities, the least first. -/
def all : List Severity := [low, medium, high, critical]

/-- The weight by which severities are compared and ranked. -/
def weight : Severity → Nat
  | low => 1
  | medium => 2
  | high => 4
  | critical => 8

/-- The name of a severity. -/
def name : Severity → String
  | low => "low"
  | medium => "medium"
  | high => "high"
  | critical => "critical"

/-- The name in capital letters. -/
def capitals : Severity → String
  | low => "LOW"
  | medium => "MEDIUM"
  | high => "HIGH"
  | critical => "CRITICAL"

/-- The severity that a key asks for by its name. -/
def ofKey (key : LabelKey) : Except UnknownLabel Severity :=
  labelOf "Severity" all (fun severity => key.text? = some severity.name) key

/-- The severity with a name. -/
def ofName (text : String) : Except UnknownLabel Severity :=
  ofKey (.text text)

/-- A severity is the severity of its name. -/
theorem ofName_name (severity : Severity) : ofName severity.name = .ok severity := by
  cases severity <;> rfl

/-- Two severities of one weight are the same. -/
theorem weight_inj {a b : Severity} (h : a.weight = b.weight) : a = b := by
  cases a <;> cases b <;> first | rfl | simp [weight] at h

/-- Severities compare by weight. -/
def compare (a b : Severity) : Ordering :=
  Ord.compare a.weight b.weight

/-- Beside plain text a severity compares by its name. -/
def compareText (a : Severity) (text : String) : Ordering :=
  if a.name < text then .lt else if a.name = text then .eq else .gt

/-- Severities in the order of their weights, equal ones as they came. -/
def sort (severities : List Severity) : List Severity :=
  severities.mergeSort fun a b => decide (a.weight ≤ b.weight)

/-- The heavier of two severities. -/
def heavier (a b : Severity) : Severity :=
  if a.weight < b.weight then b else a

/-- The lighter of two severities. -/
def lighter (a b : Severity) : Severity :=
  if b.weight < a.weight then b else a

/-- The heaviest severity of a list. -/
def heaviest? : List Severity → Option Severity
  | [] => none
  | first :: rest => some (rest.foldl heavier first)

/-- The lightest severity of a list. -/
def lightest? : List Severity → Option Severity
  | [] => none
  | first :: rest => some (rest.foldl lighter first)

/-- What is said of the heaviest of no severities. -/
def noSeverityMessage : String := "max() arg is an empty sequence"

/-- What is said of a comparison with a value that is no text. -/
def comparisonMessage (relation : String) (other : LabelKey) : String :=
  "'" ++ relation ++ "' not supported between instances of 'Severity' and '" ++ other.kindName ++
    "'"

end Severity

/-- The bounds above which a value counts as medium, high and
critical. -/
structure Bands (α : Type) where
  medium : α
  high : α
  critical : α
deriving DecidableEq

namespace Bands

variable {α : Type}

/-- The severity of a value. Every bound is exclusive, and the first gates
the others: a value that is not above it has no severity. -/
def severity? (le lt : α → α → Bool) (bands : Bands α) (value : α) : Option Severity :=
  if le value bands.medium then none
  else if lt bands.critical value then some .critical
  else if lt bands.high value then some .high
  else some .medium

/-- The severity of a whole number. -/
def ofInt? (bands : Bands Int) (value : Int) : Option Severity :=
  bands.severity? (fun a b => decide (a ≤ b)) (fun a b => decide (a < b)) value

/-- The severity of a floating-point value. -/
def ofFloat? (bands : Bands Binary64) (value : Binary64) : Option Severity :=
  bands.severity? Binary64.le Binary64.lt value

end Bands
end CausalTrace
