/-
Tight loops are the long blocks of one name.

* `forall₂_filterMap_filter`: what is made of the elements that pass a test, beside
  these elements;
* `Graph.IsLoopOf`: a finding says of a block of nodes what there is to say;
  `Graph.natCast_timeTogether`, `Graph.exists_isLoopOf`: there is one for every run
  above the lowest band, with the time from the starts to the ends of its spans;
* `Graph.loopNodes`, `Graph.loopNodes_eq`: the nodes of a loop are those of its run;
* `Graph.loops_are_long_blocks`: **there is one loop for each long block**, in order,
  and none for any other; no node is in two loops.
-/
import CausalTrace.Proofs.Detection.Loop
import Mathlib.Algebra.GroupWithZero.Nat
import Mathlib.Algebra.Ring.Int.Defs
import Mathlib.Data.List.Forall2

namespace CausalTrace

/-- What is made of the elements that pass a test, and of no others, stands beside
these elements. -/
lemma forall₂_filterMap_filter {α β : Type} {R : β → α → Prop} {f : α → Option β}
    {test : α → Bool} {xs : List α} (hsome : ∀ x ∈ xs, test x → ∃ y, f x = some y ∧ R y x)
    (hnone : ∀ x ∈ xs, ¬ test x → f x = none) :
    List.Forall₂ R (xs.filterMap f) (xs.filter test) := by
  induction xs with
  | nil => exact .nil
  | cons x xs ih =>
    rw [List.forall_mem_cons] at hsome hnone
    have hrest := ih hsome.2 hnone.2
    by_cases hx : test x
    · obtain ⟨y, hy, hR⟩ := hsome.1 hx
      rw [List.filterMap_cons_some hy, List.filter_cons_of_pos hx]
      exact .cons hR hrest
    · rwa [List.filterMap_cons_none (hnone.1 hx), List.filter_cons_of_neg hx]

namespace Graph

variable {g : Graph} {bands : Bands Int}

/-! ### Blocks -/

/-- The maximal blocks of nodes with one name, in the order of the clocks. -/
def nameBlocks (g : Graph) : List (List (Span × Nat)) :=
  g.byClock.splitBy fun a b => a.1.name = b.1.name

/-- The blocks are the runs of one name. -/
lemma map_toList_nameRuns (g : Graph) : g.nameRuns.map Run.toList = g.nameBlocks :=
  map_toList_runsOn _ _

/-- The blocks above the lowest band are the runs above it. -/
lemma filter_nameBlocks (g : Graph) (bands : Bands Int) :
    (g.nameBlocks.filter fun block => bands.medium < block.length) =
      ((placed Run.length 0 g.nameRuns).filter fun run => bands.medium < run.2.length).map
        fun run => run.2.toList := by
  rw [← map_toList_nameRuns, ← map_snd_placed Run.length 0 g.nameRuns, List.map_map,
    List.filter_map]
  simp only [Function.comp_def, Run.length_toList, map_snd_placed]

/-! ### What is said of a block -/

/-- A finding names the operation of a block, its length, the time it takes, its first
node and its last, and it is as severe as the highest band that the length is above. -/
def IsLoopOf (bands : Bands Int) (finding : Finding) (block : List (Span × Nat)) : Prop :=
  ∃ first last, block.head? = some first ∧ block.getLast? = some last ∧
    (∀ entry ∈ block, entry.1.name = first.1.name) ∧
    finding.pattern = .tightLoop first.1.name block.length
      (block.map fun entry => max (entry.1.endTime - entry.1.startTime) 0).sum first.2 last.2 ∧
    finding.severity = if bands.critical < block.length then .critical
      else if bands.high < block.length then .high else .medium

/-- The spans of some nodes take the time from their starts to their ends, added up. -/
lemma natCast_timeTogether (block : List (Span × Nat)) :
    (Span.timeTogether (block.map (·.1)) : Int) =
      (block.map fun entry => max (entry.1.endTime - entry.1.startTime) 0).sum := by
  induction block with
  | nil => rfl
  | cons entry block ih =>
    rw [List.map_cons, List.map_cons, List.sum_cons, timeTogether_cons, Nat.cast_add, ih,
      natCast_duration]

/-- A run above the lowest band is found. -/
lemma exists_isLoopOf {run : Run (Span × Nat)} (hrun : run ∈ g.nameRuns)
    (hlong : bands.medium < run.length) :
    ∃ loop, loopFinding? bands run = some loop ∧ IsLoopOf bands loop run.toList := by
  have hseverity : bands.ofInt? run.length = some (if bands.critical < run.length then .critical
      else if bands.high < run.length then .high else .medium) := by
    rw [Bands.ofInt?, Bands.severity?, if_neg (by simpa using hlong)]
    simp only [decide_eq_true_eq]
    split_ifs <;> rfl
  have hlast : run.toList.getLast? = some run.last := by
    rw [Run.toList, List.getLast?_cons, ← List.getLastD_eq_getLast?]
    rfl
  have htime := natCast_timeTogether run.toList
  refine ⟨_, congrArg (Option.map _) hseverity, run.first, run.last, rfl, hlast,
    key_eq_of_mem_runsOn _ _ run hrun, ?_, ?_⟩
  · rw [htime, run.length_toList]
  · rw [run.length_toList]

/-- No other run is. -/
lemma loopFinding?_eq_none {run : Run (Span × Nat)} (h : ¬ bands.medium < run.length) :
    loopFinding? bands run = none := by
  rw [loopFinding?, Bands.ofInt?, Bands.severity?, if_pos (by simpa using h), Option.map_none]

/-! ### The nodes of a loop -/

/-- The nodes of a loop: those from its first to its last in the order of the clocks. -/
def loopNodes (g : Graph) (loop : Finding) : List Nat :=
  match loop.pattern with
  | .tightLoop _ _ _ first last =>
    ((g.byClock.map Prod.snd).take (g.place last + 1)).drop (g.place first)
  | _ => []

/-- The nodes of a loop are those of its run. -/
lemma loopNodes_eq {run : Nat × Run (Span × Nat)} {loop : Finding}
    (h : run ∈ placed Run.length 0 g.nameRuns) (hloop : loopFinding? bands run.2 = some loop) :
    g.loopNodes loop = run.2.toList.map Prod.snd := by
  obtain ⟨severity, -, rfl⟩ := Option.map_eq_some_iff.1 hloop
  obtain ⟨before, after, hruns, hplace⟩ := exists_append_of_mem_placed h
  have horder : g.byClock =
      before.flatMap Run.toList ++ run.2.toList ++ after.flatMap Run.toList := by
    rw [← flatMap_runsOn (fun entry => entry.1.name) g.byClock, ← nameRuns, hruns,
      List.flatMap_append, List.flatMap_cons, List.append_assoc]
  have hbefore : (before.flatMap Run.toList).length = run.1 := by
    rw [hplace, Nat.zero_add, List.length_flatMap]
    simp only [Run.length_toList]
  simp only [loopNodes]
  rw [place_first h, place_last h, ← List.map_take, ← List.map_drop, horder,
    List.take_left' (by rw [List.length_append, hbefore, Run.length_toList]),
    List.drop_left' hbefore]

/-! ### Loops and blocks -/

/-- Loops stand beside the long runs that they are made of. -/
lemma forall₂_isLoopOf (g : Graph) (bands : Bands Int) :
    List.Forall₂ (fun loop block => IsLoopOf bands loop block ∧
        g.loopNodes loop = block.map Prod.snd) (g.tightLoops bands)
      (g.nameBlocks.filter fun block => bands.medium < block.length) := by
  rw [filter_nameBlocks, List.forall₂_map_right_iff, tightLoops_eq_filterMap]
  refine forall₂_filterMap_filter (fun run hrun hlong => ?_) fun run _ hshort =>
    loopFinding?_eq_none (by simpa using hshort)
  have hmem : run.2 ∈ g.nameRuns := by
    rw [← map_snd_placed Run.length 0 g.nameRuns]
    exact List.mem_map_of_mem hrun
  obtain ⟨loop, hloop, hsays⟩ := exists_isLoopOf hmem (of_decide_eq_true hlong)
  exact ⟨loop, hloop, hsays, loopNodes_eq hrun hloop⟩

/-- The nodes of all long blocks are nodes in the order of the clocks. -/
lemma flatten_filter_nameBlocks (g : Graph) (bands : Bands Int) :
    (g.nameBlocks.filter fun block => bands.medium < block.length).flatten.Sublist g.byClock := by
  have hall : g.nameBlocks.flatten = g.byClock := List.flatten_splitBy ..
  rw [← hall]
  exact List.filter_sublist.flatten

/-- **There is one loop for each long block.** Cut the nodes, in the stable order of
their clocks, into maximal blocks of one name. The blocks that are longer than the lowest
band, and no others, have each one loop, in the same order: it says of its block what
there is to say, and its nodes are those of the block. So no node is in two loops. -/
theorem loops_are_long_blocks (g : Graph) (bands : Bands Int) :
    StablySorted (fun entry : Span × Nat => entry.1.clock) g.spans.toList.zipIdx g.byClock ∧
      List.Forall₂ (fun loop block => IsLoopOf bands loop block ∧
          g.loopNodes loop = block.map Prod.snd) (g.tightLoops bands)
        (g.nameBlocks.filter fun block => bands.medium < block.length) ∧
      ((g.tightLoops bands).flatMap g.loopNodes).Nodup := by
  have hloops := g.forall₂_isLoopOf bands
  have hnodes : (g.tightLoops bands).map g.loopNodes =
      (g.nameBlocks.filter fun block => bands.medium < block.length).map (List.map Prod.snd) := by
    rw [← List.forall₂_eq_eq_eq, List.forall₂_map_left_iff, List.forall₂_map_right_iff]
    exact hloops.imp fun _ _ h => h.2
  refine ⟨g.stablySorted_byClock, hloops, ?_⟩
  rw [List.flatMap_def, hnodes, ← List.map_flatten]
  exact ((g.flatten_filter_nameBlocks bands).map Prod.snd).nodup g.nodup_map_snd_byClock

end Graph
end CausalTrace
