/-
Several clocks that share one environment, and what each step on one of
them answers.

* `ClockNetwork`: the clocks by name, the environment, and the last
  number that any step answered;
* `ClockStep`: what can happen at a clock;
* `ClockNetwork.step`, `ClockNetwork.run`: one step, and a run of steps
  with the answer of each.
-/
import CausalTrace.Clock.Propagation

namespace CausalTrace

/-- A value handed to a clock: given outright, or the last number that
any step answered. -/
inductive RemoteValue where
  | given (value : Int)
  | latest
deriving DecidableEq, Repr

/-- What can happen at a clock. -/
inductive ClockStep where
  | tick
  | now
  | reset
  | describe
  | sync (remote : RemoteValue)
  | setVariable (name text : String)
  | propagate
  | init
deriving DecidableEq, Repr

/-- What a step answers. -/
inductive ClockAnswer where
  | nothing
  | number (value : Nat)
  | text (value : String)
deriving DecidableEq, Repr

/-- Clocks by name, over one environment. -/
structure ClockNetwork where
  clocks : List (String × LamportClock)
  environment : Environment
  latest : Int := 0

namespace ClockNetwork

/-- The clock of a name; one that was never set up starts at zero. -/
def clock (net : ClockNetwork) (name : String) : LamportClock :=
  (net.clocks.lookup name).getD ⟨0⟩

/-- The network with one clock changed. -/
def setClock (net : ClockNetwork) (name : String) (clock : LamportClock) : ClockNetwork :=
  { net with clocks := Keyed.put name clock net.clocks }

/-- The network that remembers a number as the last answer. -/
def answered (net : ClockNetwork) (value : Nat) : ClockNetwork :=
  { net with latest := value }

/-- One step at a clock. The clocks exchange values through the variable
`shared`. A value that is too long to be written changes nothing and is not
answered. -/
def step (shared : String) (net : ClockNetwork) (name : String) :
    ClockStep → ClockAnswer × ClockNetwork
  | .tick =>
    let (value, clock) := (net.clock name).tick
    (.number value, (net.setClock name clock).answered value)
  | .now => (.number (net.clock name).now, net.answered (net.clock name).now)
  | .reset => (.nothing, net.setClock name (net.clock name).reset)
  | .describe =>
    match (net.clock name).describe? with
    | some text => (.text text, net)
    | none => (.nothing, net)
  | .sync (.given value) => (.nothing, net.setClock name ((net.clock name).sync value))
  | .sync .latest => (.nothing, net.setClock name ((net.clock name).sync net.latest))
  | .setVariable key text =>
    (.nothing, { net with environment := net.environment.set key text })
  | .propagate =>
    match (net.clock name).propagate? shared net.environment with
    | some (value, environment) => (.number value, ({ net with environment }).answered value)
    | none => (.nothing, net)
  | .init =>
    match (net.clock name).initFrom shared net.environment with
    | (some value, clock) => (.number value, (net.setClock name clock).answered value)
    | (none, _) => (.nothing, net)

/-- A run of steps: after each, its answer and the network. -/
def run (shared : String) (net : ClockNetwork) :
    List (String × ClockStep) → List (ClockAnswer × ClockNetwork)
  | [] => []
  | (name, action) :: rest =>
    let result := net.step shared name action
    result :: run shared result.2 rest

end ClockNetwork
end CausalTrace
