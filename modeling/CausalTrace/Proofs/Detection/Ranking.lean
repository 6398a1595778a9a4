/-
The order in which findings are reported.

* `Graph.ComesFirst`: a dominant process comes before the loops, these come in the order of
  the clocks, and transfers come last; `Graph.pairwise_comesFirst`: the detectors are asked
  in that order;
* `Graph.Ranked`: the most severe findings come first, and those that are equally severe
  in that order; `Graph.ranked_findings`, `findings_ranked_by_severity`: **all findings are
  ranked so**, and none gets lost.
-/
import CausalTrace.Proofs.Detection.Loop
import CausalTrace.Proofs.Detection.Outcome

namespace CausalTrace

/-- Which detector looks for a pattern, in the order in which they are asked. -/
def PatternKind.turn : PatternKind → Nat
  | dominantProcess => 0
  | tightLoop => 1
  | transferBottleneck => 2

namespace Graph

variable {g : Graph} {path : CriticalPath} {settings : Settings} {bands : Bands Int}
  {dominant transfer : Option Finding} {findings : List Finding} {loop : Finding}
  {run : Nat × Run (Span × Nat)}

/-! ### The order of the detectors -/

/-- Where a loop starts in the order of the clocks. -/
def loopStart (g : Graph) (finding : Finding) : Nat :=
  match finding.pattern with
  | .tightLoop _ _ _ first _ => g.place first
  | _ => 0

/-- A finding is from an earlier detector than another, or both are loops, and it starts
earlier in the order of the clocks. -/
def ComesFirst (g : Graph) (a b : Finding) : Prop :=
  a.kind.turn < b.kind.turn ∨ a.kind.turn = b.kind.turn ∧ g.loopStart a < g.loopStart b

/-- A loop starts where its run does. -/
lemma loopStart_eq (h : run ∈ placed Run.length 0 g.nameRuns)
    (hloop : loopFinding? bands run.2 = some loop) : g.loopStart loop = run.1 := by
  obtain ⟨severity, -, rfl⟩ := Option.map_eq_some_iff.1 hloop
  exact place_first h

/-- Loops come in the order of the clocks. -/
lemma pairwise_comesFirst_tightLoops (g : Graph) (bands : Bands Int) :
    (g.tightLoops bands).Pairwise g.ComesFirst := by
  have hstarts : (g.tightLoops bands).Pairwise fun a b => g.loopStart a < g.loopStart b := by
    rw [tightLoops_eq_filterMap, List.pairwise_filterMap]
    refine (pairwise_placed Run.length 0 g.nameRuns).imp_of_mem
      fun {run other} hrun hother hapart loop hloop otherLoop hotherLoop => ?_
    rw [loopStart_eq hrun hloop, loopStart_eq hother hotherLoop]
    have hlength : 0 < run.2.length := Nat.succ_pos _
    omega
  refine hstarts.imp_of_mem fun ha hb hlt => Or.inr ⟨?_, hlt⟩
  rw [kind_eq_of_mem_tightLoops ha, kind_eq_of_mem_tightLoops hb]

/-- There is nothing to compare where at most one thing is found. -/
lemma pairwise_toList {r : Finding → Finding → Prop} (finding : Option Finding) :
    finding.toList.Pairwise r := by
  cases finding <;> simp

/-- The detectors are asked in their order. -/
lemma pairwise_comesFirst (g : Graph) (bands : Bands Int)
    (hdominant : ∀ found ∈ dominant.toList, found.kind = .dominantProcess)
    (htransfer : ∀ found ∈ transfer.toList, found.kind = .transferBottleneck) :
    (dominant.toList ++ g.tightLoops bands ++ transfer.toList).Pairwise g.ComesFirst := by
  have hloops : ∀ loop ∈ g.tightLoops bands, loop.kind = .tightLoop :=
    fun _ hloop => kind_eq_of_mem_tightLoops hloop
  have hfirst : (dominant.toList ++ g.tightLoops bands).Pairwise g.ComesFirst := by
    refine List.pairwise_append.2 ⟨pairwise_toList _, pairwise_comesFirst_tightLoops g bands,
      fun a ha b hb => Or.inl ?_⟩
    rw [hdominant a ha, hloops b hb]
    decide
  refine List.pairwise_append.2 ⟨hfirst, pairwise_toList _, fun a ha b hb => Or.inl ?_⟩
  rw [htransfer b hb]
  rcases List.mem_append.1 ha with ha | ha
  · rw [hdominant a ha]
    decide
  · rw [hloops a ha]
    decide

/-! ### The order of the severities -/

/-- Findings are put in order: all that were found, the most severe first, and those that
are equally severe in the order of the detectors. -/
structure Ranked (g : Graph) (found findings : List Finding) : Prop where
  perm : findings.Perm found
  ranked : findings.Pairwise fun a b =>
    b.severity.weight < a.severity.weight ∨ a.severity = b.severity ∧ g.ComesFirst a b

/-- **All findings are ranked.** -/
lemma ranked_findings
    (hdominant : g.dominantProcess? path settings.dominant settings.dominantMinProcesses =
      .ok dominant)
    (htransfer : g.transferBottleneck? settings settings.transfer = .ok transfer) :
    ∃ findings, g.findings path settings = .ok findings ∧
      g.Ranked (dominant.toList ++ g.tightLoops settings.loop ++ transfer.toList) findings := by
  have hsorted := stablySorted_mergeSort Finding.rank
    (dominant.toList ++ g.tightLoops settings.loop ++ transfer.toList)
  refine ⟨_, findings_eq_ok_iff.2 ⟨dominant, hdominant, transfer, htransfer, rfl⟩,
    hsorted.perm, ?_⟩
  have hgiven := pairwise_comesFirst g settings.loop (kind_of_dominantProcess? hdominant)
    (kind_of_transferBottleneck? htransfer)
  refine (hsorted.pairwise hgiven).imp fun {a b} hrank => ?_
  simp only [Finding.rank] at hrank
  rcases hrank with hlt | ⟨heq, hfirst⟩
  · exact Or.inl (by omega)
  · exact Or.inr ⟨Severity.weight_inj (by omega), hfirst⟩

/-- Nothing is reported exactly if no detector finds anything. -/
lemma Ranked.eq_nil_iff {loops : List Finding}
    (h : g.Ranked (dominant.toList ++ loops ++ transfer.toList) findings) :
    findings = [] ↔ dominant = none ∧ loops = [] ∧ transfer = none := by
  have hnil : findings = [] ↔ dominant.toList ++ loops ++ transfer.toList = [] :=
    ⟨fun hempty => List.nil_perm.1 (hempty ▸ h.perm),
      fun hempty => List.perm_nil.1 (hempty ▸ h.perm)⟩
  rw [hnil, List.append_eq_nil_iff, List.append_eq_nil_iff, Option.toList_eq_nil_iff,
    Option.toList_eq_nil_iff, and_assoc]

/-- **Findings are ranked by severity.** An acyclic graph of spans of one trace has a
critical path, and its findings are the same whether or not that path is given. The detector
of dominant processes always comes to an answer on it, so findings fail only as the
detector of transfers does. If that comes to an answer too then the findings are those of
the three detectors in another order: the most severe first, and of those that are equally
severe a dominant process, then the loops in the order of the clocks, then the transfers.
There are none exactly if no detector finds anything. -/
theorem findings_ranked_by_severity {spans : List Span} (hone : OneTrace spans) :
    ∃ g, ofSpans spans = .ok g ∧ (¬ g.Cyclic → ∃ path, g.criticalPath = .ok path ∧ ∀ settings,
      g.findingsAlong none settings = g.findingsAlong (some path) settings ∧
      ∃ dominant, g.dominantProcess? path settings.dominant settings.dominantMinProcesses =
          .ok dominant ∧
        (∀ failure, g.findingsAlong none settings = .error failure ↔
          g.transferBottleneck? settings settings.transfer = .error failure) ∧
        ∀ transfer, g.transferBottleneck? settings settings.transfer = .ok transfer →
          ∃ findings, g.findingsAlong none settings = .ok findings ∧
            g.Ranked (dominant.toList ++ g.tightLoops settings.loop ++ transfer.toList) findings ∧
            (findings = [] ↔
              dominant = none ∧ g.tightLoops settings.loop = [] ∧ transfer = none)) := by
  refine ⟨_, ofSpans_of_oneTrace hone, fun hacyclic => ?_⟩
  obtain ⟨path, nodes, hpath, halong⟩ := exists_along (linked_build spans) hacyclic
  refine ⟨path, hpath, fun settings => ?_⟩
  have hsame : (build spans).findingsAlong none settings =
      (build spans).findings path settings := by
    rw [findingsAlong, hpath]
    rfl
  obtain ⟨dominant, hdominant⟩ :=
    halong.exists_dominantProcess? settings.dominant settings.dominantMinProcesses
  refine ⟨hsame, dominant, hdominant, fun failure => ?_, fun transfer htransfer => ?_⟩
  · rw [hsame, findings, hdominant]
    cases htransfer : (build spans).transferBottleneck? settings settings.transfer <;>
      simp [bind, Except.bind, pure, Except.pure]
  · obtain ⟨findings, hfindings, hranked⟩ := ranked_findings hdominant htransfer
    exact ⟨findings, hsame.trans hfindings, hranked, hranked.eq_nil_iff⟩

/-- A kernel that another process goes on with for longer, and two copies that are made
meanwhile. -/
def copiesFirst : List Span :=
  [{ name := "kernel", startTime := 0, endTime := 1000, clock := 2, process := 1, thread := 1,
     traceId := .ofNat 16 7, spanId := .ofNat 8 1, parentId := none },
   { name := "kernel", startTime := 1000, endTime := 4000, clock := 3, process := 2, thread := 1,
     traceId := .ofNat 16 7, spanId := .ofNat 8 2, parentId := some (.ofNat 8 1) },
   { name := "memcpy", startTime := 0, endTime := 2500, clock := 0, process := 1, thread := 1,
     traceId := .ofNat 16 7, spanId := .ofNat 8 3, parentId := none },
   { name := "memcpy", startTime := 0, endTime := 2500, clock := 1, process := 1, thread := 1,
     traceId := .ofNat 16 7, spanId := .ofNat 8 4, parentId := none }]

/-- Bounds that are low enough for four spans. -/
def lowBounds : Settings :=
  { dominant := ⟨.ofNat 50, .ofNat 90, .ofNat 95⟩, loop := ⟨1, 10, 100⟩ }

/-- The critical path of the batch. -/
def kernelPath : CriticalPath :=
  { path := [0, 1], total := 4000, durations := [(0, 1000), (1, 3000)],
    names := ["kernel", "kernel"] }

/-- The second process takes three quarters of the path. -/
def longKernel : Finding := ⟨.medium, .dominantProcess 2 (.ofNat 75) 3000⟩

/-- The copies come first in the order of the clocks. -/
def copyLoop : Finding := ⟨.medium, .tightLoop "memcpy" 2 5000 2 3⟩

/-- The kernels come after them. -/
def kernelLoop : Finding := ⟨.medium, .tightLoop "kernel" 2 4000 0 1⟩

/-- The copies take longer than the kernels. -/
def slowCopies : Finding := ⟨.high, .transferBottleneck 5000 4000 (.ofNat 125)⟩

lemma dominantProcess?_kernelPath :
    (build copiesFirst).dominantProcess? kernelPath lowBounds.dominant
      lowBounds.dominantMinProcesses = .ok (some longKernel) := by
  have htimes : (build copiesFirst).processTimes kernelPath.path = [(1, 1000), (2, 3000)] :=
    (processTimes_build copiesFirst [0, 1]).trans rfl
  refine (dominantProcess?_eq_some_iff (congrArg Tally.leader? htimes)).2
    ⟨?_, .ofNat 75, .medium, by decide +kernel, by decide +kernel, rfl⟩
  rw [htimes]
  decide

lemma tightLoops_copiesFirst :
    (build copiesFirst).tightLoops lowBounds.loop = [copyLoop, kernelLoop] := by
  have horder : (build copiesFirst).byClock = [(copiesFirst[2], 2), (copiesFirst[3], 3),
      (copiesFirst[0], 0), (copiesFirst[1], 1)] := by
    cbv
  rw [tightLoops, horder]
  rfl

lemma transferBottleneck?_copiesFirst :
    (build copiesFirst).transferBottleneck? lowBounds lowBounds.transfer =
      .ok (some slowCopies) := by
  -- only the spans of the graph count, and its edges need not be worked out
  simp only [transferBottleneck?, transferTime, computeTime, timeOf, spans_build]
  decide +kernel

lemma findings_kernelPath :
    (build copiesFirst).findings kernelPath lowBounds =
      .ok [slowCopies, longKernel, copyLoop, kernelLoop] := by
  -- shares have no part in the order, and their digits need not be worked out for it
  have hsort (share share' : Binary64) :
      ([⟨.medium, .dominantProcess 2 share 3000⟩, copyLoop, kernelLoop,
        ⟨.high, .transferBottleneck 5000 4000 share'⟩] : List Finding).mergeSort
          (fun a b => decide (a.rank ≤ b.rank)) =
      [⟨.high, .transferBottleneck 5000 4000 share'⟩, ⟨.medium, .dominantProcess 2 share 3000⟩,
        copyLoop, kernelLoop] := by
    have hranks : (fun a b : Finding => decide (a.rank ≤ b.rank)) =
        fun a b => decide (b.severity.weight ≤ a.severity.weight) := by
      funext a b
      exact decide_eq_decide.2 (by simp only [Finding.rank]; omega)
    rw [hranks]
    cbv
  refine findings_eq_ok_iff.2
    ⟨_, dominantProcess?_kernelPath, _, transferBottleneck?_copiesFirst, ?_⟩
  rw [tightLoops_copiesFirst]
  exact (hsort _ _).symm

/-- The detector of transfers is asked last, but what it finds is the most severe; the rest
is equally severe, and stays in the order in which it was found. -/
theorem slow_copies_ranked_first :
    OneTrace copiesFirst ∧ ∃ g, ofSpans copiesFirst = .ok g ∧ ¬ g.Cyclic ∧
      g.criticalPath = .ok kernelPath ∧
      g.findingsAlong none lowBounds = .ok [slowCopies, longKernel, copyLoop, kernelLoop] ∧
      g.findingsAlong (some kernelPath) lowBounds =
        .ok [slowCopies, longKernel, copyLoop, kernelLoop] ∧
      g.Ranked [longKernel, copyLoop, kernelLoop, slowCopies]
        [slowCopies, longKernel, copyLoop, kernelLoop] := by
  have hone : OneTrace copiesFirst := ⟨.ofNat 16 7, by simp [copiesFirst]⟩
  obtain ⟨g, hg, hranks⟩ := findings_ranked_by_severity hone
  obtain ⟨-, rfl⟩ := ofSpans_eq_ok_iff.1 hg
  have hacyclic : ¬ (build copiesFirst).Cyclic :=
    (isAcyclic_iff (linked_build copiesFirst)).1 (by cbv)
  obtain ⟨path, hpath, hsettings⟩ := hranks hacyclic
  have hok : (build copiesFirst).order? = .ok [3, 2, 0, 1] := by cbv
  have hranking : (build copiesFirst).ranking ((build copiesFirst).distances [3, 2, 0, 1]) =
      [(0, 1000), (1, 4000), (2, 2500), (3, 2500)] := by
    cbv
  have heval : (build copiesFirst).criticalPath = .ok kernelPath := by
    rw [criticalPath_eq_pathTo hok hranking rfl]
    cbv
  obtain rfl := Except.ok.inj (heval.symm.trans hpath)
  obtain ⟨hsame, dominant, hdominant, -, hanswer⟩ := hsettings lowBounds
  obtain rfl := Except.ok.inj (hdominant.symm.trans dominantProcess?_kernelPath)
  obtain ⟨findings, hfindings, hranked, -⟩ := hanswer _ transferBottleneck?_copiesFirst
  have hgiven : (build copiesFirst).findingsAlong (some kernelPath) lowBounds =
      .ok [slowCopies, longKernel, copyLoop, kernelLoop] := findings_kernelPath
  obtain rfl := Except.ok.inj ((hfindings.symm.trans hsame).trans hgiven)
  change (build copiesFirst).Ranked ([longKernel] ++
    (build copiesFirst).tightLoops lowBounds.loop ++ [slowCopies]) _ at hranked
  rw [tightLoops_copiesFirst] at hranked
  exact ⟨hone, _, hg, hacyclic, heval, hfindings, hgiven, hranked⟩

end Graph
end CausalTrace
