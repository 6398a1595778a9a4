/-
Where tight loops lie in the order of the clocks.

* `Graph.stablySorted_byClock`, `Graph.map_fst_byClock`: the nodes of a graph are
  put in the same order as its spans;
* `Graph.place`: where a node comes in the order of the clocks; `place_first`,
  `place_last`: the nodes that a loop names are the ends of its run;
* `Graph.isInside`, `isInside_iff`: whether a block of spans lies inside a loop;
* `pairwise_isInside_tightLoops`, `filter_isInside_tightLoops`: **what lies inside
  a run that is long enough is inside the loop made of it**, and inside no other.
-/
import CausalTrace.Proofs.Detection.Scan
import CausalTrace.Proofs.Detection.Severity
import CausalTrace.Proofs.Run.Nested
import CausalTrace.Proofs.StableSort
import Mathlib.Data.List.Nodup

namespace CausalTrace
namespace Graph

variable {g : Graph} {bands : Bands Int} {loop : Finding} {block : Nat × List Span}
  {run : Nat × Run (Span × Nat)}

/-! ### The order of the clocks -/

/-- Nodes are put in the stable order of their clocks. -/
lemma stablySorted_byClock (g : Graph) :
    StablySorted (fun entry : Span × Nat => entry.1.clock) g.spans.toList.zipIdx g.byClock :=
  stablySorted_mergeSort _ _

/-- Nodes are put in the same order as spans. -/
lemma map_fst_byClock (g : Graph) : g.byClock.map Prod.fst = sortByClock g.spans.toList := by
  have hsorted : StablySorted (fun span : Span => span.clock) (g.spans.toList.zipIdx.map Prod.fst)
      (g.byClock.map Prod.fst) := StablySorted.map (f := Prod.fst) g.stablySorted_byClock
  rw [List.zipIdx_map_fst] at hsorted
  exact (sortByClock_eq hsorted).symm

/-- No node comes twice. -/
lemma nodup_map_snd_byClock (g : Graph) : (g.byClock.map Prod.snd).Nodup := by
  rw [(g.stablySorted_byClock.perm.map Prod.snd).nodup_iff, List.zipIdx_map_snd]
  exact List.nodup_range'

/-- Where a node comes in the order of the clocks. -/
def place (g : Graph) (node : Int) : Nat :=
  (g.byClock.map fun entry => (entry.2 : Int)).idxOf node

/-- A node is at the place at which it is found. -/
lemma place_eq {i : Nat} {entry : Span × Nat} (h : g.byClock[i]? = some entry) :
    g.place entry.2 = i := by
  have hnodup : (g.byClock.map fun entry => (entry.2 : Int)).Nodup := by
    have hcast := List.Nodup.map (fun _ _ => Int.ofNat_inj.1) g.nodup_map_snd_byClock
    rwa [List.map_map] at hcast
  have hnode : (g.byClock.map fun entry => (entry.2 : Int))[i]? = some (entry.2 : Int) := by
    rw [List.getElem?_map, h, Option.map_some]
  obtain ⟨hi, heq⟩ := List.getElem?_eq_some_iff.1 hnode
  rw [place, ← heq]
  exact hnodup.idxOf_getElem i hi

/-! ### Runs of one name -/

/-- A run begins at the place of its first node. -/
lemma place_first (h : run ∈ placed Run.length 0 g.nameRuns) :
    g.place run.2.first.2 = run.1 := by
  have hfirst := getElem?_of_mem_placed h (Nat.succ_pos _)
  rw [nameRuns, flatMap_runsOn] at hfirst
  exact place_eq hfirst

/-- A run ends behind the place of its last node. -/
lemma place_last (h : run ∈ placed Run.length 0 g.nameRuns) :
    g.place run.2.last.2 + 1 = run.1 + run.2.length := by
  have hlast := getElem?_of_mem_placed h (Nat.lt_succ_self run.2.rest.length)
  rw [nameRuns, flatMap_runsOn, run.2.getElem?_toList_last] at hlast
  rw [place_eq hlast]
  rfl

/-- Loops are found run by run. -/
lemma tightLoops_eq_filterMap (g : Graph) (bands : Bands Int) :
    g.tightLoops bands =
      (placed Run.length 0 g.nameRuns).filterMap fun run => loopFinding? bands run.2 := by
  rw [tightLoops_eq]
  conv_lhs => rw [← map_snd_placed Run.length 0 g.nameRuns]
  exact List.filterMap_map

/-! ### Loops -/

/-- An element that passes a test which no two pass is all that passes it. -/
lemma filter_eq_singleton {α : Type} {test : α → Bool} {x : α} {xs : List α}
    (h : xs.Pairwise fun a b => ¬ (test a ∧ test b)) (hx : x ∈ xs) (htest : test x) :
    xs.filter test = [x] := by
  have hmem : x ∈ xs.filter test := List.mem_filter.2 ⟨hx, htest⟩
  have hnone := h.sublist (List.filter_sublist (p := test))
  have hall : ∀ y ∈ xs.filter test, test y := fun y hy => (List.mem_filter.1 hy).2
  match hfilter : xs.filter test with
  | [] => simp [hfilter] at hmem
  | [y] =>
    rw [hfilter, List.mem_singleton] at hmem
    rw [hmem]
  | y :: z :: rest =>
    rw [hfilter] at hnone hall
    exact absurd ⟨hall y (by simp), hall z (by simp)⟩ (List.rel_of_pairwise_cons hnone (by simp))

/-- A loop is made of a run that is long enough. -/
lemma mem_tightLoops_iff :
    loop ∈ g.tightLoops bands ↔
      ∃ run ∈ placed Run.length 0 g.nameRuns, loopFinding? bands run.2 = some loop := by
  rw [tightLoops_eq_filterMap, List.mem_filterMap]

/-- What a loop says can be read off its run. -/
lemma eq_of_loopFinding?_eq_some {run : Run (Span × Nat)} {severity : Severity} {name : String}
    {repetitions duration first last : Int}
    (h : loopFinding? bands run =
      some ⟨severity, .tightLoop name repetitions duration first last⟩) :
    repetitions = run.length ∧ first = run.first.2 ∧ last = run.last.2 := by
  obtain ⟨_, -, hfinding⟩ := Option.map_eq_some_iff.1 h
  simp only [Finding.mk.injEq, Pattern.tightLoop.injEq] at hfinding
  obtain ⟨-, -, hlength, -, hfirst, hlast⟩ := hfinding
  exact ⟨hlength.symm, hfirst.symm, hlast.symm⟩

/-- Loops are of that kind. -/
lemma kind_eq_of_mem_tightLoops (h : loop ∈ g.tightLoops bands) : loop.kind = .tightLoop := by
  obtain ⟨run, -, hloop⟩ := mem_tightLoops_iff.1 h
  obtain ⟨severity, -, rfl⟩ := Option.map_eq_some_iff.1 hloop
  rfl

/-- The severity of a loop is at least the medium one. -/
lemma medium_le_of_mem_tightLoops (h : loop ∈ g.tightLoops bands) :
    Severity.medium.weight ≤ loop.severity.weight := by
  obtain ⟨run, -, hloop⟩ := mem_tightLoops_iff.1 h
  obtain ⟨severity, hseverity, rfl⟩ := Option.map_eq_some_iff.1 hloop
  exact medium_le_of_severity? hseverity

/-- Loops are among the findings. -/
lemma mem_findings_of_mem_tightLoops {path : CriticalPath} {settings : Settings}
    {findings : List Finding} (h : g.findings path settings = .ok findings)
    (hloop : loop ∈ g.tightLoops settings.loop) : loop ∈ findings := by
  obtain ⟨dominant, -, transfer, -, rfl⟩ := findings_eq_ok_iff.1 h
  rw [List.mem_mergeSort]
  exact List.mem_append_left _ (List.mem_append_right _ hloop)

/-- A loop goes from its first node to its last. -/
lemma place_first_add {severity : Severity} {name : String}
    {repetitions duration first last : Int}
    (h : ⟨severity, .tightLoop name repetitions duration first last⟩ ∈ g.tightLoops bands) :
    g.place first + repetitions = g.place last + 1 := by
  obtain ⟨run, hrun, hloop⟩ := mem_tightLoops_iff.1 h
  obtain ⟨rfl, rfl, rfl⟩ := eq_of_loopFinding?_eq_some hloop
  have hfirst := place_first hrun
  have hlast := place_last hrun
  omega

/-- Whether a block of spans, with the number of spans in front of it in the order
of the clocks, lies inside a loop: not before its first node, and not behind its
last. -/
def isInside (g : Graph) (block : Nat × List Span) (loop : Finding) : Bool :=
  match loop.pattern with
  | .tightLoop _ _ _ first last =>
    g.place first ≤ block.1 ∧ block.1 + block.2.length ≤ g.place last + 1
  | _ => false

/-- A block lies inside a loop if it lies inside its run. -/
lemma isInside_iff (h : run ∈ placed Run.length 0 g.nameRuns)
    (hloop : loopFinding? bands run.2 = some loop) :
    g.isInside block loop ↔
      run.1 ≤ block.1 ∧ block.1 + block.2.length ≤ run.1 + run.2.length := by
  obtain ⟨severity, -, rfl⟩ := Option.map_eq_some_iff.1 hloop
  simp only [isInside, place_first h, place_last h, decide_eq_true_eq]

/-- No block lies inside two loops: their runs lie apart. -/
lemma pairwise_isInside_tightLoops (hne : block.2 ≠ []) :
    (g.tightLoops bands).Pairwise fun a b => ¬ (g.isInside block a ∧ g.isInside block b) := by
  have hlength := List.length_pos_iff.2 hne
  rw [tightLoops_eq_filterMap, List.pairwise_filterMap]
  have hapart := pairwise_placed Run.length 0 g.nameRuns
  refine hapart.imp_of_mem fun {run other} hrun hother hapart => ?_
  rintro loop hloop otherLoop hotherLoop ⟨hinside, hotherInside⟩
  have hbounds := (isInside_iff hrun hloop).1 hinside
  have hotherBounds := (isInside_iff hother hotherLoop).1 hotherInside
  omega

/-- **What lies inside a run that is long enough is inside the loop made of it**,
and inside no other. -/
lemma filter_isInside_tightLoops (h : run ∈ placed Run.length 0 g.nameRuns)
    (hloop : loopFinding? bands run.2 = some loop) (hinside : g.isInside block loop)
    (hne : block.2 ≠ []) :
    (g.tightLoops bands).filter (g.isInside block) = [loop] := by
  exact filter_eq_singleton (pairwise_isInside_tightLoops hne)
    (mem_tightLoops_iff.2 ⟨run, h, hloop⟩) hinside

end Graph
end CausalTrace
