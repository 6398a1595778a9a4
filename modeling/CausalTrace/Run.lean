/-
Runs of consecutive elements that are the same.

* `Run`: a block that is not empty;
* `cut`: cuts a list into runs, from front to back.
-/
namespace CausalTrace

/-- A block of elements that is not empty. -/
structure Run (α : Type) where
  first : α
  rest : List α

namespace Run

variable {α : Type}

/-- The elements of a block. -/
def toList (run : Run α) : List α :=
  run.first :: run.rest

/-- The number of elements of a block. -/
def length (run : Run α) : Nat :=
  run.rest.length + 1

/-- The last element of a block. -/
def last (run : Run α) : α :=
  run.rest.getLastD run.first

/-- The length of a block is that of its list. -/
theorem length_toList (run : Run α) : run.toList.length = run.length := by
  simp [toList, length]

end Run

variable {α : Type}

/-- Cuts a list into runs behind those that are done already, the latest of them in
front. A run goes on for as long as the elements are the same as its first one. -/
def cutBehind (same : α → α → Bool) (xs : List α) (done : List (Run α)) : List (Run α) :=
  match xs with
  | [] => done.reverse
  | first :: others =>
    cutBehind same (others.dropWhile (same first))
      (⟨first, others.takeWhile (same first)⟩ :: done)
termination_by xs.length
decreasing_by exact Nat.lt_succ_of_le (List.dropWhile_sublist _).length_le

/-- Cuts a list into runs. -/
def cut (same : α → α → Bool) (xs : List α) : List (Run α) :=
  cutBehind same xs []

end CausalTrace
