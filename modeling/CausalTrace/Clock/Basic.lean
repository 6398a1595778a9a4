/-
Logical clocks: a counter that orders the events of several processes
whatever their wall clocks say.

* `LamportClock.tick`: hands out the current value and advances;
* `LamportClock.sync`: takes a value received from elsewhere, so that the
  next value handed out is greater;
* `LamportClock.lt_sync`: after taking a value the clock is beyond it and
  beyond what it was.
-/
import CausalTrace.Text.Numeral

namespace CausalTrace

/-- A logical clock, showing the next value it will hand out. -/
structure LamportClock where
  counter : Nat
deriving DecidableEq, Repr

namespace LamportClock

/-- A clock that starts at a value, or at zero if the value is
negative. -/
def startingAt (value : Int) : LamportClock :=
  ⟨value.toNat⟩

/-- The value the clock shows. -/
def now (clock : LamportClock) : Nat :=
  clock.counter

/-- Hands out the current value and advances by one. -/
def tick (clock : LamportClock) : Nat × LamportClock :=
  (clock.counter, ⟨clock.counter + 1⟩)

/-- Takes a value received from elsewhere. -/
def sync (clock : LamportClock) (remote : Int) : LamportClock :=
  ⟨max clock.counter remote.toNat + 1⟩

/-- Starts over. -/
def reset (_ : LamportClock) : LamportClock :=
  ⟨0⟩

/-- The clock as a text, if its value is not too long. -/
def describe? (clock : LamportClock) : Option String :=
  (writeInteger? clock.counter).map fun value => "LamportClock(now=" ++ value ++ ")"

/-- After taking a value the clock is beyond it and beyond what it
was. -/
theorem lt_sync (clock : LamportClock) (remote : Int) :
    clock.now < (clock.sync remote).now ∧ remote < (clock.sync remote).now := by
  simp only [now, sync]
  omega

end LamportClock
end CausalTrace
