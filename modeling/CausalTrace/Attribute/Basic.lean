/-
Attribute values, and their canonical form.

* `Attribute`: what a span may carry under a key;
* `Attribute.canonical`: fields in the order of their keys at every
  level, foreign values replaced by the text that stands for them.
-/
import CausalTrace.Number.Binary64

namespace CausalTrace

/-- A value that a span carries under a key. A foreign value has no form
of its own and is known by a text only. -/
inductive Attribute where
  | null
  | bool (value : Bool)
  | int (value : Int)
  | float (value : Binary64)
  | text (value : String)
  | list (items : List Attribute)
  | map (fields : List (String × Attribute))
  | foreign (shown : String)
deriving Inhabited

namespace Attribute

/-- Fields in the order of their keys, by code points. -/
def sortFields (fields : List (String × Attribute)) : List (String × Attribute) :=
  fields.mergeSort fun a b => decide (a.1 ≤ b.1)

mutual

/-- The canonical form of a value. -/
def canonical : Attribute → Attribute
  | null => null
  | bool value => bool value
  | int value => int value
  | float value => float value
  | text value => text value
  | list items => list (canonicalItems items)
  | map fields => map (sortFields (canonicalFields fields))
  | foreign shown => text shown

/-- The items of a list, each in canonical form. -/
def canonicalItems : List Attribute → List Attribute
  | [] => []
  | item :: rest => item.canonical :: canonicalItems rest

/-- The fields of a map, each value in canonical form. -/
def canonicalFields : List (String × Attribute) → List (String × Attribute)
  | [] => []
  | (key, value) :: rest => (key, value.canonical) :: canonicalFields rest

end

end Attribute
end CausalTrace
