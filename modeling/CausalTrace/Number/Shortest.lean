/-
The shortest decimal number that reads back as a given floating-point
value, and its layout as text.

* `Decimal.shortest`: the fewest digits that read back, the nearest
  such number among those with equally many;
* `Layout`: the decisions of a text format (where positional writing
  ends, the width of the exponent, the names of the special values);
* `Layout.write`: a value in a layout.
-/
import CausalTrace.Number.Decimal

namespace CausalTrace

-- Powers are those of the natural numbers, whichever others are known.
attribute [local instance (high)] instPowNat

/-- The decimal number `significand * 10 ^ exponent`. -/
structure Decimal where
  significand : Nat
  exponent : Int
deriving Repr, DecidableEq

namespace Decimal

/-- The number of digits before the decimal point of a magnitude; zero
or negative when it starts behind the point. -/
def wholeDigits (units : Nat) : Int :=
  (Nat.toDigits 10 (units * 10 ^ (400 : Nat) / Binary64.one)).length - 400

/-- The best number on one decimal grid that reads back as the
magnitude: the nearest point if it does, else either neighbour. -/
def onGrid? (units : Nat) (exponent : Int) : Option Decimal :=
  let (up, down) := tenPower exponent
  let num := units * down
  let den := Binary64.one * up
  let readsBack (c : Nat) : Bool := roundSignificant (c * up * Binary64.one) down = units
  ([nearest num den, num / den, num / den + 1].find? readsBack).map (⟨·, exponent⟩)

/-- The shortest decimal number that reads back as a magnitude.
Seventeen digits always suffice. -/
def shortest (units : Nat) : Decimal :=
  let digits := wholeDigits units
  ((List.range 17).findSome? fun n => onGrid? units (digits - ((n + 1 : Nat) : Int))).getD ⟨0, 0⟩

end Decimal

/-- How floating-point values are laid out as text. -/
structure Layout where
  /-- The least decimal exponent that is written positionally. -/
  firstPositional : Int
  /-- The least decimal exponent above those written positionally. -/
  firstScientific : Int
  /-- The least number of exponent digits. -/
  exponentWidth : Nat
  infinity : String
  nan : String

namespace Layout

/-- The digits of a positive magnitude, laid out; `point` digits stand
before the decimal point. -/
def place (layout : Layout) (digits : List Char) (point : Int) : List Char :=
  let exponent := point - 1
  if layout.firstPositional ≤ exponent ∧ exponent < layout.firstScientific then
    if point ≤ 0 then
      '0' :: '.' :: (List.replicate (-point).toNat '0' ++ digits)
    else
      let whole := digits.take point.toNat
      let fraction := digits.drop point.toNat
      whole ++ List.replicate (point.toNat - whole.length) '0' ++
        '.' :: (if fraction.isEmpty then ['0'] else fraction)
  else
    let mantissa := match digits with
      | first :: second :: rest => first :: '.' :: second :: rest
      | short => short
    mantissa ++ 'e' :: (if exponent < 0 then '-' else '+') ::
      Binary64.paddedDigits layout.exponentWidth exponent.natAbs

/-- A value written with the fewest digits that read back. -/
def write (layout : Layout) : Binary64 → List Char
  | .finite negative units _ =>
    let sign := if negative then ['-'] else []
    if units = 0 then sign ++ ['0', '.', '0']
    else
      let decimal := Decimal.shortest units
      let digits := Nat.toDigits 10 decimal.significand
      let point := digits.length + decimal.exponent
      let kept := (digits.reverse.dropWhile (· = '0')).reverse
      sign ++ layout.place kept point
  | .infinite negative => (if negative then ['-'] else []) ++ layout.infinity.toList
  | .nan => layout.nan.toList

end Layout
end CausalTrace
