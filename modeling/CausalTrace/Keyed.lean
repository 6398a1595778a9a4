/-
Lists of pairs with at most one value for each key, in the order in
which the keys first came.

* `Keyed.put`: sets the value under a key, in place if the key is there;
* `Keyed.lookup_put_self`, `Keyed.lookup_put_of_ne`: what was put is
  found, and other keys keep their values;
* `Keyed.keys_put`, `Keyed.put_of_notMem`: the keys are those from before,
  and the new one at the end if it was not there.
-/
namespace CausalTrace
namespace Keyed

variable {κ α : Type} [DecidableEq κ]

/-- Sets the value under a key: in place if the key is there, else at
the end. -/
def put (key : κ) (value : α) : List (κ × α) → List (κ × α)
  | [] => [(key, value)]
  | entry :: rest =>
    if entry.1 = key then (key, value) :: rest else entry :: put key value rest

/-- Sets values one after the other. -/
def ofList (entries : List (κ × α)) : List (κ × α) :=
  entries.foldl (fun done entry => put entry.1 entry.2 done) []

/-- Changes the value under a key, starting from a default. -/
def update (key : κ) (default : α) (change : α → α) (entries : List (κ × α)) : List (κ × α) :=
  put key (change ((entries.lookup key).getD default)) entries

/-- What was put is found. -/
theorem lookup_put_self (key : κ) (value : α) (entries : List (κ × α)) :
    (put key value entries).lookup key = some value := by
  induction entries with
  | nil => simp [put]
  | cons entry rest ih =>
    obtain ⟨k, v⟩ := entry
    by_cases h : k = key
    · simp [put, h]
    · have hbeq : (key == k) = false := by simpa using Ne.symm h
      simp [put, List.lookup_cons, h, hbeq, ih]

/-- Other keys keep their values. -/
theorem lookup_put_of_ne {key other : κ} (h : other ≠ key) (value : α)
    (entries : List (κ × α)) : (put key value entries).lookup other = entries.lookup other := by
  have hbeq : (other == key) = false := by simpa using h
  induction entries with
  | nil => simp [put, List.lookup_cons, hbeq]
  | cons entry rest ih =>
    obtain ⟨k, v⟩ := entry
    by_cases hk : k = key
    · subst hk
      simp [put, List.lookup_cons, hbeq]
    · by_cases ho : other == k <;> simp [put, List.lookup_cons, hk, ho, ih]

/-- The keys after setting a value. -/
theorem keys_put (key : κ) (value : α) (entries : List (κ × α)) :
    (put key value entries).map (·.1)
      = if key ∈ entries.map (·.1) then entries.map (·.1) else entries.map (·.1) ++ [key] := by
  induction entries with
  | nil => simp [put]
  | cons entry rest ih =>
    by_cases h : entry.1 = key
    · simp [put, h]
    · have hne : key ≠ entry.1 := Ne.symm h
      by_cases hrest : key ∈ rest.map (·.1)
      · simp only [put, h, if_false, List.map_cons, ih, hrest, if_true, List.mem_cons, or_true]
      · simp only [put, h, if_false, List.map_cons, ih, hrest, List.mem_cons, hne, or_self,
          List.cons_append]

/-- A new key is put behind the others. -/
theorem put_of_notMem {key : κ} {value : α} {entries : List (κ × α)}
    (h : key ∉ entries.map (·.1)) : put key value entries = entries ++ [(key, value)] := by
  induction entries with
  | nil => rfl
  | cons entry rest ih =>
    rw [List.map_cons, List.mem_cons, not_or] at h
    rw [put, if_neg (Ne.symm h.1), ih h.2, List.cons_append]

end Keyed
end CausalTrace
