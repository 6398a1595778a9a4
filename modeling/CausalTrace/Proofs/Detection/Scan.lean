/-
The scan for tight loops.

* `Repetition.ofRun`: what is counted at the end of a run;
  `Repetition.foldl_next_toList`: so it is counted, and what went on before is closed;
* `Repetition.foldl_next_flatMap`: what is found in some runs, one after the other, and in
  the last of them when the scan is over;
* `Graph.nameRuns`: the runs of one name, in the order of the clocks;
  `Graph.tightLoops_eq`: **a loop is found for each of them** that is long enough.
-/
import CausalTrace.Detection
import CausalTrace.Proofs.Run
import CausalTrace.Proofs.Time
import Mathlib.Data.List.Induction

namespace CausalTrace

variable {bands : Bands Int} {current : Option Repetition} {found : Array Finding}

namespace Repetition

/-! ### One run -/

/-- What is counted at the end of a run: its length, the time of its spans and its ends. -/
def ofRun (run : Run (Span × Nat)) : Repetition where
  name := run.first.1.name
  count := run.length
  duration := Span.timeTogether (run.toList.map (·.1))
  first := run.first.2
  last := run.last.2

/-- A run goes on with one more node. -/
lemma ofRun_append_singleton (first : Span × Nat) (rest : List (Span × Nat))
    (entry : Span × Nat) : ofRun ⟨first, rest ++ [entry]⟩ = (ofRun ⟨first, rest⟩).goOn entry := by
  have htime : Span.timeTogether [entry.1] = entry.1.duration := Nat.add_zero _
  simp only [ofRun, goOn, Run.length, Run.last, Run.toList, List.length_append,
    List.length_singleton, List.getLastD_concat, ← List.cons_append, List.map_append,
    List.map_singleton, timeTogether_append, htime]

/-- A run goes on for as long as its name does. -/
lemma foldl_next_rest {first : Span × Nat} {rest : List (Span × Nat)}
    (halike : ∀ entry ∈ rest, entry.1.name = first.1.name) :
    rest.foldl (next bands) (some (ofRun ⟨first, []⟩), found) =
      (some (ofRun ⟨first, rest⟩), found) := by
  induction rest using List.reverseRecOn with
  | nil => rfl
  | append_singleton rest entry ih =>
    have hentry : entry.1.name = first.1.name := halike entry (by simp)
    rw [List.foldl_append, ih fun other hmem => halike other (List.mem_append_left _ hmem),
      List.foldl_cons, List.foldl_nil, next, ofRun_append_singleton]
    exact if_pos hentry

/-- A run is counted from its first node to its last, and what went on before is closed. -/
lemma foldl_next_toList {run : Run (Span × Nat)}
    (halike : ∀ entry ∈ run.rest, entry.1.name = run.first.1.name)
    (hother : ∀ r ∈ current, run.first.1.name ≠ r.name) :
    run.toList.foldl (next bands) (current, found) =
      (some (ofRun run), close bands current found) := by
  have hstart : next bands (current, found) run.first =
      (some (ofRun ⟨run.first, []⟩), close bands current found) := by
    cases current with
    | none => rfl
    | some r =>
      rw [next]
      exact if_neg (hother r rfl)
  rw [Run.toList, List.foldl_cons, hstart, foldl_next_rest halike]

/-! ### One run after the other -/

/-- The finding about a repetition that is closed comes behind the others. -/
lemma toList_close (r : Repetition) (found : Array Finding) :
    (close bands (some r) found).toList = found.toList ++ (r.finding? bands).toList := by
  rw [close, Option.bind_some]
  cases r.finding? bands <;> simp

/-- What is found in some runs comes behind what was found before. The last run is closed
when the scan is over. -/
lemma foldl_next_flatMap {runs : List (Run (Span × Nat))}
    (hruns : Canonical (fun entry => entry.1.name) runs)
    (hother : ∀ r ∈ current, ∀ run ∈ runs.head?, run.first.1.name ≠ r.name) :
    let state := (runs.flatMap Run.toList).foldl (next bands) (current, found)
    (close bands state.1 state.2).toList =
      (close bands current found).toList ++
        runs.filterMap fun run => (ofRun run).finding? bands := by
  induction runs generalizing current found with
  | nil => simp
  | cons run runs ih =>
    obtain ⟨halike, hmaximal⟩ := hruns
    rw [List.isChain_cons] at hmaximal
    have hrest : Canonical (fun entry => entry.1.name) runs :=
      ⟨fun next hnext => halike next (List.mem_cons_of_mem _ hnext), hmaximal.2⟩
    have hrun : run.toList.foldl (next bands) (current, found) =
        (some (ofRun run), close bands current found) :=
      foldl_next_toList
        (fun entry hentry => halike run List.mem_cons_self entry (List.mem_cons_of_mem _ hentry))
        fun r hr => hother r hr run rfl
    have hnext : ∀ r ∈ some (ofRun run), ∀ next ∈ runs.head?, next.first.1.name ≠ r.name := by
      rintro r ⟨⟩ next hnext
      exact Ne.symm (hmaximal.1 next hnext)
    rw [List.flatMap_cons, List.foldl_append, hrun]
    refine (ih hrest hnext).trans ?_
    rw [toList_close, List.append_assoc, List.filterMap_cons]
    cases (ofRun run).finding? bands <;> rfl

end Repetition

/-! ### The order of the clocks -/

namespace Graph

/-- The finding for a run of one operation, if it is long enough. -/
def loopFinding? (bands : Bands Int) (run : Run (Span × Nat)) : Option Finding :=
  (bands.ofInt? run.length).map fun severity =>
    ⟨severity, .tightLoop run.first.1.name run.length (Span.timeTogether (run.toList.map (·.1)))
      run.first.2 run.last.2⟩

/-- The runs of one name in the order of the clocks. -/
def nameRuns (g : Graph) : List (Run (Span × Nat)) :=
  runsOn (fun entry => entry.1.name) g.byClock

/-- **The scan finds a loop for each run of one name** that is long enough, and no other. -/
lemma tightLoops_eq (g : Graph) (bands : Bands Int) :
    g.tightLoops bands = g.nameRuns.filterMap (loopFinding? bands) := by
  have hnone : ∀ r ∈ (none : Option Repetition), ∀ run ∈ g.nameRuns.head?,
      run.first.1.name ≠ r.name := by
    rintro r ⟨⟩
  have hscan : (Repetition.close bands _ _).toList =
      (Repetition.close bands none #[]).toList ++ _ :=
    Repetition.foldl_next_flatMap (canonical_runsOn _ g.byClock) hnone
  rw [flatMap_runsOn] at hscan
  exact hscan

end Graph
end CausalTrace
