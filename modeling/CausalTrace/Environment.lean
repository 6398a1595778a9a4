/-
Environment variables.

* `Environment`: texts by variable name;
* `Environment.get?_set_self`, `Environment.get?_set_of_ne`: a variable
  that was set has its text, and the others keep theirs.
-/
import CausalTrace.Keyed

namespace CausalTrace

/-- Environment variables and their texts. -/
structure Environment where
  entries : List (String × String)
deriving DecidableEq

namespace Environment

/-- The text of a variable, if it is set. -/
def get? (env : Environment) (name : String) : Option String :=
  env.entries.lookup name

/-- Sets a variable. -/
def set (env : Environment) (name text : String) : Environment :=
  ⟨Keyed.put name text env.entries⟩

/-- A variable that was set has its text. -/
theorem get?_set_self (env : Environment) (name text : String) :
    (env.set name text).get? name = some text :=
  Keyed.lookup_put_self name text env.entries

/-- The other variables keep their texts. -/
theorem get?_set_of_ne (env : Environment) {name other : String} (h : other ≠ name)
    (text : String) : (env.set name text).get? other = env.get? other :=
  Keyed.lookup_put_of_ne h text env.entries

end Environment
end CausalTrace
