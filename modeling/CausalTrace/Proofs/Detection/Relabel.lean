/-
Findings about a batch told with other times, clocks and identifiers.

* `Relabeling.processTimes_build`: processes take the same time on a path;
* `Relabeling.byClock_build`: **nodes are put in the same order**; so the loops are
  the same: `Relabeling.tightLoops_build`;
* `Relabeling.timeOf_build`: spans with certain names take the same time;
* `Relabeling.findings_build`: so all findings are the same.
-/
import CausalTrace.Proofs.Detection.Loop
import CausalTrace.Proofs.Graph.Relabel

namespace CausalTrace
namespace Relabeling

open CausalTrace.Graph (build loopFinding?)

variable (r : Relabeling)

/-! ### Processes -/

/-- Processes take the same time on a path, and come in the same order. -/
lemma processTimes_build (spans : List Span) (path : List Int) :
    (build (spans.map r.span)).processTimes path = (build spans).processTimes path := by
  have hspans : path.filterMap (build (spans.map r.span)).span? =
      (path.filterMap (build spans).span?).map r.span := by
    rw [List.map_filterMap]
    exact List.filterMap_congr fun node _ => r.span?_build spans node
  rw [Graph.processTimes, Graph.processTimes, hspans, List.foldl_map]
  simp only [process_span, duration_span]

/-- What is found about processes on a path is the same. -/
lemma dominantProcess?_build (spans : List Span) (path : CriticalPath) (bands : Bands Binary64)
    (minProcesses : Int) :
    (build (spans.map r.span)).dominantProcess? path bands minProcesses =
      (build spans).dominantProcess? path bands minProcesses := by
  rw [Graph.dominantProcess?, Graph.dominantProcess?, r.processTimes_build]

/-! ### Loops -/

/-- **Nodes are put in the same order.** -/
lemma byClock_build (spans : List Span) :
    (build (spans.map r.span)).byClock = (build spans).byClock.map (Prod.map r.span id) := by
  have hgiven : (build (spans.map r.span)).spans.toList.zipIdx =
      (build spans).spans.toList.zipIdx.map (Prod.map r.span id) := by
    simp [List.zipIdx_map]
  have hsorted := (build (spans.map r.span)).stablySorted_byClock
  rw [hgiven] at hsorted
  exact hsorted.unique (StablySorted.map ((build spans).stablySorted_byClock.comp r.clock_lt))

/-- A run is as much of a loop as before, between the same nodes. -/
lemma loopFinding?_map (bands : Bands Int) (run : Run (Span × Nat)) :
    loopFinding? bands (run.map (Prod.map r.span id)) = loopFinding? bands run := by
  have hspans : (run.map (Prod.map r.span id)).toList.map Prod.fst =
      (run.toList.map Prod.fst).map r.span := by
    rw [Run.toList_map, List.map_map, List.map_map]
    rfl
  rw [loopFinding?, loopFinding?, Run.length_map, hspans, timeTogether_map, Run.last_map]
  rfl

/-- **The loops are the same.** -/
lemma tightLoops_build (spans : List Span) (bands : Bands Int) :
    (build (spans.map r.span)).tightLoops bands = (build spans).tightLoops bands := by
  rw [Graph.tightLoops_eq, Graph.tightLoops_eq, Graph.nameRuns, byClock_build, runsOn_map,
    List.filterMap_map]
  exact List.filterMap_congr fun run _ => r.loopFinding?_map bands run

/-! ### Transfers -/

/-- Spans whose names pass a test take the same time. -/
lemma timeOf_build (spans : List Span) (test : String → Bool) :
    (build (spans.map r.span)).timeOf test = (build spans).timeOf test := by
  have hspans : (spans.map r.span).filter (fun span => test span.name) =
      (spans.filter fun span => test span.name).map r.span := by
    rw [List.filter_map]
    rfl
  simp only [Graph.timeOf, Graph.spans_build, List.toList_toArray, hspans, timeTogether_map]

/-- What is found about transfers is the same. -/
lemma transferBottleneck?_build (spans : List Span) (settings : Settings)
    (bands : Bands Binary64) :
    (build (spans.map r.span)).transferBottleneck? settings bands =
      (build spans).transferBottleneck? settings bands := by
  have htransfer : (build (spans.map r.span)).transferTime settings =
      (build spans).transferTime settings := r.timeOf_build spans _
  have hcompute : (build (spans.map r.span)).computeTime settings =
      (build spans).computeTime settings := r.timeOf_build spans _
  rw [Graph.transferBottleneck?, Graph.transferBottleneck?, htransfer, hcompute]

/-! ### All findings -/

/-- **All findings are the same**, or they fail in the same way. -/
lemma findings_build (spans : List Span) (path : CriticalPath) (settings : Settings) :
    (build (spans.map r.span)).findings path settings =
      (build spans).findings path settings := by
  simp only [Graph.findings, r.dominantProcess?_build, r.tightLoops_build,
    r.transferBottleneck?_build]

end Relabeling
end CausalTrace
