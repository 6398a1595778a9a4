/-
Runs inside longer runs.

* `Run.joined`, `map_joined_runsOn`: **a run of a coarser key is made of whole
  runs of a finer one**;
* `Run.map`, `runsOn_map`: the runs of replaced elements are the runs with their
  elements replaced;
* `placed`: the pieces of a list, each with the number of elements in front of
  it; `pairwise_placed`: none begins before the piece in front of it ends;
* `exists_of_mem_placed_flatMap`, `exists_of_mem_placed_runsOn`: a piece of a group
  lies inside the group, and so a run of a finer key inside one of a coarser key;
* `sum_size_le`: pieces that lie apart between two places have no more elements
  than there are between these.
-/
import CausalTrace.Proofs.Run
import Mathlib.Algebra.GroupWithZero.Nat

namespace CausalTrace

variable {α β κ κ' : Type} [DecidableEq κ] [DecidableEq κ']

/-! ### Blocks of blocks -/

namespace Run

/-- A block of blocks as one block. -/
def joined (runs : Run (Run α)) : Run α :=
  ⟨runs.first.first, runs.first.rest ++ runs.rest.flatMap toList⟩

/-- The elements of a block of blocks. -/
lemma toList_joined (runs : Run (Run α)) : runs.joined.toList = runs.toList.flatMap toList := by
  simp [joined, toList]

/-- A block of blocks is as long as these together. -/
lemma length_joined (runs : Run (Run α)) :
    runs.joined.length = (runs.toList.map length).sum := by
  rw [← length_toList, toList_joined, List.length_flatMap]
  simp only [length_toList]

/-- The last element of a block is the last of its list. -/
lemma getElem?_toList_last (run : Run α) : run.toList[run.rest.length]? = some run.last := by
  have hlast := List.getLast?_eq_getElem? (l := run.toList)
  rw [toList, List.getLast?_cons] at hlast
  rw [toList, last, List.getLastD_eq_getLast?]
  exact hlast.symm

/-- A block with its elements replaced. -/
def map (f : α → β) (run : Run α) : Run β :=
  ⟨f run.first, run.rest.map f⟩

@[simp]
lemma toList_map (f : α → β) (run : Run α) : (run.map f).toList = run.toList.map f := by
  simp [map, toList]

@[simp]
lemma length_map (f : α → β) (run : Run α) : (run.map f).length = run.length := by
  simp [map, length]

@[simp]
lemma last_map (f : α → β) (run : Run α) : (run.map f).last = f run.last := by
  simp only [map, last, List.getLastD_eq_getLast?, List.getLast?_map]
  cases run.rest.getLast? <;> rfl

end Run

/-- **The runs of a coarser key are made of whole runs of a finer one**: runs of
the finer key that follow each other and agree in the coarser one, joined. -/
lemma map_joined_runsOn {fine : α → κ} {coarse : α → κ'}
    (h : ∀ a b, fine a = fine b → coarse a = coarse b) (xs : List α) :
    (runsOn (fun run : Run α => coarse run.first) (runsOn fine xs)).map Run.joined =
      runsOn coarse xs := by
  have hfine := canonical_runsOn fine xs
  have hgroups := canonical_runsOn (fun run : Run α => coarse run.first) (runsOn fine xs)
  have hparts := flatMap_runsOn (fun run : Run α => coarse run.first) (runsOn fine xs)
  generalize runsOn (fun run : Run α => coarse run.first) (runsOn fine xs) = groups at *
  have hcanonical : Canonical coarse (groups.map Run.joined) := by
    constructor
    · intro run hrun x hx
      obtain ⟨group, hgroup, rfl⟩ := List.mem_map.1 hrun
      rw [Run.toList_joined] at hx
      obtain ⟨part, hpart, hx⟩ := List.mem_flatMap.1 hx
      have hmem : part ∈ runsOn fine xs := hparts ▸ List.mem_flatMap.2 ⟨group, hgroup, hpart⟩
      exact (h _ _ (hfine.alike part hmem x hx)).trans (hgroups.alike group hgroup part hpart)
    · rw [List.isChain_map]
      exact hgroups.maximal
  have helements : (groups.map Run.joined).flatMap Run.toList = xs := by
    rw [List.flatMap_map]
    simp only [Run.toList_joined]
    rw [← List.flatMap_assoc, hparts, flatMap_runsOn]
  rw [← runsOn_flatMap hcanonical, helements]

/-- The runs of replaced elements are the runs with their elements replaced. -/
lemma runsOn_map (f : α → β) (key : β → κ) (xs : List α) :
    runsOn key (xs.map f) = (runsOn (fun x => key (f x)) xs).map (Run.map f) := by
  obtain ⟨halike, hmaximal⟩ := canonical_runsOn (fun x => key (f x)) xs
  have helements := flatMap_runsOn (fun x => key (f x)) xs
  generalize runsOn (fun x => key (f x)) xs = runs at *
  have hcanonical : Canonical key (runs.map (Run.map f)) := by
    constructor
    · intro image himage y hy
      obtain ⟨run, hrun, rfl⟩ := List.mem_map.1 himage
      rw [Run.toList_map] at hy
      obtain ⟨x, hx, rfl⟩ := List.mem_map.1 hy
      exact halike run hrun x hx
    · rw [List.isChain_map]
      exact hmaximal
  rw [← runsOn_flatMap hcanonical, ← helements, List.flatMap_map, List.map_flatMap]
  simp only [Run.toList_map]

/-! ### Places -/

/-- Pieces one after the other, each with the number of elements in front of it.
`size` says how many elements a piece has. -/
def placed (size : α → Nat) : (start : Nat) → List α → List (Nat × α)
  | _, [] => []
  | start, piece :: pieces => (start, piece) :: placed size (start + size piece) pieces

variable {size : α → Nat} {start : Nat} {pieces : List α} {entry : Nat × α}

@[simp]
lemma map_snd_placed (size : α → Nat) (start : Nat) (pieces : List α) :
    (placed size start pieces).map Prod.snd = pieces := by
  induction pieces generalizing start with
  | nil => rfl
  | cons piece pieces ih => rw [placed, List.map_cons, ih]

/-- Pieces keep their places if they are replaced by pieces of the same size. -/
lemma placed_map (f : β → α) (xs : List β) :
    placed size start (xs.map f) =
      (placed (fun x => size (f x)) start xs).map (Prod.map id f) := by
  induction xs generalizing start with
  | nil => rfl
  | cons x xs ih => rw [List.map_cons, placed, placed, List.map_cons, ih, Prod.map_apply, id]

/-- A piece has its place behind all pieces in front of it. -/
lemma exists_append_of_mem_placed (h : entry ∈ placed size start pieces) :
    ∃ before after, pieces = before ++ entry.2 :: after ∧
      entry.1 = start + (before.map size).sum := by
  induction pieces generalizing start with
  | nil => simp [placed] at h
  | cons piece pieces ih =>
    rcases List.mem_cons.1 h with rfl | h
    · exact ⟨[], pieces, rfl, rfl⟩
    · obtain ⟨before, after, rfl, hplace⟩ := ih h
      exact ⟨piece :: before, after, rfl, by rw [hplace, List.map_cons, List.sum_cons]; omega⟩

/-- A piece lies between the start and the end of all. -/
lemma bounds_of_mem_placed (h : entry ∈ placed size start pieces) :
    start ≤ entry.1 ∧ entry.1 + size entry.2 ≤ start + (pieces.map size).sum := by
  obtain ⟨before, after, rfl, hplace⟩ := exists_append_of_mem_placed h
  rw [List.map_append, List.sum_append, List.map_cons, List.sum_cons]
  omega

/-- No piece begins before the one in front of it ends. -/
lemma pairwise_placed (size : α → Nat) (start : Nat) (pieces : List α) :
    (placed size start pieces).Pairwise fun a b => a.1 + size a.2 ≤ b.1 := by
  induction pieces generalizing start with
  | nil => exact List.Pairwise.nil
  | cons piece pieces ih =>
    exact List.pairwise_cons.2 ⟨fun entry hentry => (bounds_of_mem_placed hentry).1, ih _⟩

/-- Pieces of groups are placed group by group. -/
lemma placed_append (xs ys : List α) :
    placed size start (xs ++ ys) =
      placed size start xs ++ placed size (start + (xs.map size).sum) ys := by
  induction xs generalizing start with
  | nil => rfl
  | cons x xs ih =>
    rw [List.cons_append, placed, placed, ih, List.map_cons, List.sum_cons, Nat.add_assoc,
      List.cons_append]

/-- A piece of a group lies inside the group. -/
lemma exists_of_mem_placed_flatMap {f : β → List α} {groups : List β}
    (h : entry ∈ placed size start (groups.flatMap f)) :
    ∃ group ∈ placed (fun x => ((f x).map size).sum) start groups, entry.2 ∈ f group.2 ∧
      group.1 ≤ entry.1 ∧
        entry.1 + size entry.2 ≤ group.1 + ((f group.2).map size).sum := by
  induction groups generalizing start with
  | nil => simp [placed] at h
  | cons group groups ih =>
    rw [List.flatMap_cons, placed_append] at h
    rcases List.mem_append.1 h with h | h
    · have hmem : entry.2 ∈ f group := by
        rw [← map_snd_placed size start (f group)]
        exact List.mem_map_of_mem h
      exact ⟨(start, group), List.mem_cons_self, hmem, bounds_of_mem_placed h⟩
    · obtain ⟨other, hother, hrest⟩ := ih h
      exact ⟨other, List.mem_cons_of_mem _ hother, hrest⟩

/-- **A run of a finer key lies inside a run of a coarser one**, which has its
coarser key. -/
lemma exists_of_mem_placed_runsOn {fine : α → κ} {coarse : α → κ'} {xs : List α}
    {run : Nat × Run α} (h : ∀ a b, fine a = fine b → coarse a = coarse b)
    (hrun : run ∈ placed Run.length 0 (runsOn fine xs)) :
    ∃ outer ∈ placed Run.length 0 (runsOn coarse xs), outer.1 ≤ run.1 ∧
      run.1 + run.2.length ≤ outer.1 + outer.2.length ∧
        coarse run.2.first = coarse outer.2.first := by
  have halike := (canonical_runsOn (fun run : Run α => coarse run.first) (runsOn fine xs)).alike
  rw [← flatMap_runsOn (fun run : Run α => coarse run.first) (runsOn fine xs)] at hrun
  rw [← map_joined_runsOn h, placed_map]
  obtain ⟨group, hgroup, hmem, hle, hend⟩ := exists_of_mem_placed_flatMap hrun
  have hpart : group.2 ∈ runsOn (fun run : Run α => coarse run.first) (runsOn fine xs) := by
    rw [← map_snd_placed _ 0 (runsOn (fun run : Run α => coarse run.first) (runsOn fine xs))]
    exact List.mem_map_of_mem hgroup
  simp only [Run.length_joined]
  exact ⟨_, List.mem_map_of_mem hgroup, hle, by rwa [Prod.map_snd, Run.length_joined],
    halike _ hpart _ hmem⟩

/-- Pieces that lie apart between two places have no more elements than there
are between these. -/
lemma sum_size_le {entries : List (Nat × α)} {stop : Nat}
    (hapart : entries.Pairwise fun a b => a.1 + size a.2 ≤ b.1)
    (hbetween : ∀ entry ∈ entries, start ≤ entry.1 ∧ entry.1 + size entry.2 ≤ stop)
    (hle : start ≤ stop) :
    start + (entries.map fun entry => size entry.2).sum ≤ stop := by
  induction entries generalizing start with
  | nil => exact hle
  | cons entry entries ih =>
    obtain ⟨hfirst, hrest⟩ := List.pairwise_cons.1 hapart
    obtain ⟨hstart, hstop⟩ := hbetween entry List.mem_cons_self
    have hbehind := ih hrest (fun other hother => ⟨hfirst other hother,
      (hbetween other (List.mem_cons_of_mem _ hother)).2⟩) hstop
    rw [List.map_cons, List.sum_cons]
    omega

/-- The elements of a placed run stand at its place. -/
lemma getElem?_of_mem_placed {runs : List (Run α)} {run : Nat × Run α}
    (h : run ∈ placed Run.length 0 runs) {i : Nat} (hi : i < run.2.length) :
    (runs.flatMap Run.toList)[run.1 + i]? = run.2.toList[i]? := by
  obtain ⟨before, after, rfl, hplace⟩ := exists_append_of_mem_placed h
  have hlength : (before.flatMap Run.toList).length = run.1 := by
    rw [hplace, Nat.zero_add, List.length_flatMap]
    simp only [Run.length_toList]
  rw [← Run.length_toList] at hi
  rw [List.flatMap_append, List.flatMap_cons, ← hlength, List.getElem?_append_right (by omega),
    Nat.add_sub_cancel_left, List.getElem?_append_left hi]

end CausalTrace
