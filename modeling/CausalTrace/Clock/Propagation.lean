/-
Handing the value of a clock to other processes through an environment
variable.

* `LamportClock.propagate?`: writes the value into the variable;
* `LamportClock.initFrom`: takes the value found there.
-/
import CausalTrace.Clock.Basic
import CausalTrace.Environment

namespace CausalTrace

/-- The clock value that a text denotes: a numeral, with blanks at its
ends, of a number that is not negative. -/
def clockValue? (text : String) : Option Nat :=
  match readInteger (trim text.toList) with
  | .ok value => if value < 0 then none else some value.toNat
  | .error _ => none

namespace LamportClock

/-- Writes the value of the clock into a variable, and returns it. For a
value that is too long there is nothing to write. -/
def propagate? (clock : LamportClock) (name : String) (env : Environment) :
    Option (Nat × Environment) :=
  (writeInteger? clock.now).map fun text => (clock.now, env.set name text)

/-- Takes the clock value that a variable holds, and returns it. A
variable that is not set or holds no clock value changes nothing. -/
def initFrom (clock : LamportClock) (name : String) (env : Environment) :
    Option Nat × LamportClock :=
  match (env.get? name).bind clockValue? with
  | some value => (some value, clock.sync value)
  | none => (none, clock)

end LamportClock
end CausalTrace
