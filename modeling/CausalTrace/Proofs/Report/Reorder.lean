/-
Reports about a batch in another order.

* `compress_of_perm`, `totalDuration_of_perm`: compression and the time of the whole
  batch do not depend on the order;
* `PathsAgree`, `summarizePath_alike`: critical paths agree in their figures, though
  they may lead to other nodes;
* `summarize?_isSome`: there is a summary in words unless the total time of the path
  is too long;
* `Report.Agrees`: reports that differ only in what an order can change;
* `spanPaths`: the near-critical paths of a batch, told by their spans;
* `analysis_ignores_order`: **a batch in another order has a report that agrees**, or
  none for the same reason.
-/
import CausalTrace.Proofs.Compression.Segments
import CausalTrace.Proofs.CriticalPath.Renumber
import CausalTrace.Proofs.Detection.Reorder
import CausalTrace.Proofs.Report.Outcome
import CausalTrace.Proofs.Report.Stages

namespace CausalTrace

open CausalTrace.Graph (OneTrace build linked_build positionIn renumbered_of_perm FindingsAgree
  lateParent)

variable {settings : Settings} {given : Option Int} {spans others : List Span}

/-! ### Compression and time -/

/-- With different clocks compression does not depend on the order. -/
lemma compress_of_perm (hclocks : (spans.map (·.clock)).Nodup) (hperm : others.Perm spans)
    (minRun : Int) : compress minRun others = compress minRun spans := by
  have hsort : sortByClock others = sortByClock spans :=
    (stablySorted_sortByClock spans).eq_of_perm (stablySorted_sortByClock others) hperm hclocks
  rw [compress, compress, operationRuns, operationRuns, hsort, hperm.length_eq]

/-- The whole batch takes the same time in any order. -/
lemma totalDuration_of_perm (hperm : others.Perm spans) :
    (build others).totalDuration = (build spans).totalDuration := by
  have hstart : (others.map (·.startTime)).min? = (spans.map (·.startTime)).min? :=
    Option.ext fun start => by
      rw [List.min?_eq_some_iff, List.min?_eq_some_iff]
      simp only [(hperm.map _).mem_iff]
  have hstop : (others.map (·.endTime)).max? = (spans.map (·.endTime)).max? :=
    Option.ext fun stop => by
      rw [List.max?_eq_some_iff, List.max?_eq_some_iff]
      simp only [(hperm.map _).mem_iff]
  rw [Graph.totalDuration, Graph.totalDuration]
  simp only [Graph.spans_build, List.toList_toArray, hstart, hstop]

/-- A batch is of one trace in any order, and it is of the same one. -/
lemma oneTrace_of_perm (hperm : others.Perm spans) : OneTrace others ↔ OneTrace spans :=
  exists_congr fun id => by simp only [hperm.mem_iff]

/-- A batch of one trace begins with a span of it in any order. -/
lemma head?_traceId_of_perm (hone : OneTrace spans) (hperm : others.Perm spans) :
    others.head?.map (·.traceId.hex) = spans.head?.map (·.traceId.hex) := by
  obtain ⟨id, hid⟩ := hone
  have hhead : ∀ batch : List Span, (∀ span ∈ batch, span.traceId = id) →
      batch.head?.map (·.traceId.hex) = if batch.length = 0 then none else some id.hex := by
    intro batch hbatch
    cases batch with
    | nil => rfl
    | cons span rest => simp [hbatch span List.mem_cons_self]
  rw [hhead spans hid, hhead others fun span hspan => hid span (hperm.subset hspan),
    hperm.length_eq]

/-! ### Stages -/

/-- A batch has a graph in any order, or none. -/
lemma ofSpans_alike (hperm : others.Perm spans) :
    Alike (fun g g' => OneTrace spans ∧ g = build spans ∧ g' = build others)
      (orRefused (Graph.ofSpans spans)) (orRefused (Graph.ofSpans others)) := by
  by_cases hone : OneTrace spans
  · rw [Graph.ofSpans_of_oneTrace hone,
      Graph.ofSpans_of_oneTrace ((oneTrace_of_perm hperm).2 hone)]
    exact .ok ⟨hone, rfl, rfl⟩
  · obtain ⟨a, -, b, -, -, herror⟩ := Graph.ofSpans_of_not_oneTrace hone
    obtain ⟨a', -, b', -, -, herror'⟩ :=
      Graph.ofSpans_of_not_oneTrace (mt (oneTrace_of_perm hperm).1 hone)
    rw [herror, herror']
    exact .error (.mixedTraces _ _ _ _)

/-- A batch has a critical path in any order, or none. -/
lemma criticalPath_alike (hids : (spans.map (·.spanId)).Nodup) (hperm : others.Perm spans) :
    Alike (fun path path' => (build spans).criticalPath = .ok path ∧
        (build others).criticalPath = .ok path')
      (orRefused (build spans).criticalPath) (orRefused (build others).criticalPath) := by
  have hcyclic := (renumbered_of_perm hids hperm).cyclic_iff (linked_build spans)
    (linked_build others)
  by_cases hcycle : (build spans).Cyclic
  · rw [Graph.criticalPath_eq_error_iff.2 (Graph.order?_eq_error (linked_build spans) hcycle),
      Graph.criticalPath_eq_error_iff.2
        (Graph.order?_eq_error (linked_build others) (hcyclic.2 hcycle))]
    exact .error (.refl _)
  · obtain ⟨path, -, hpath, -⟩ := Graph.exists_along (linked_build spans) hcycle
    obtain ⟨path', -, hpath', -⟩ :=
      Graph.exists_along (linked_build others) (mt hcyclic.1 hcycle)
    rw [hpath, hpath']
    exact .ok ⟨rfl, rfl⟩

/-- Critical paths as they stand in reports agree in their figures. -/
structure PathsAgree (path path' : PathSummary) : Prop where
  total_eq : path'.total = path.total
  traceDuration_eq : path'.traceDuration = path.traceDuration
  percentage_eq : path'.percentage = path.percentage
  isEmpty_eq : path'.names.isEmpty = path.names.isEmpty

/-- Critical paths that take the same time agree in their figures. -/
lemma summarizePath_alike {g g' : Graph} {path path' : CriticalPath}
    (htotal : path'.total = path.total) (hduration : g'.totalDuration = g.totalDuration)
    (hempty : path'.names.isEmpty = path.names.isEmpty) :
    Alike PathsAgree (orOverflow (summarizePath settings g path))
      (orOverflow (summarizePath settings g' path')) := by
  rw [summarizePath, summarizePath, CriticalPath.percentageOf, CriticalPath.percentageOf, htotal,
    hduration]
  cases percentage path.total g.totalDuration with
  | error overflow => exact .error (.refl _)
  | ok share =>
    simp only [bind, Except.bind]
    cases rounded settings.roundPlaces share with
    | error overflow => exact .error (.refl _)
    | ok percentage => exact .ok ⟨rfl, rfl, rfl, hempty⟩

/-- There is a summary in words unless the total time of a path is too long. -/
lemma summarize?_isSome (path : PathSummary) (findings : List Finding)
    (compression : CompressionSummary) (severity : Severity) :
    (summarize? path findings compression severity).isSome =
      (path.names.isEmpty || (writeInteger? path.total).isSome) := by
  rw [summarize?, Option.isSome_map, summaryParts?]
  split
  · rename_i hnames
    simp [hnames]
  · rename_i hnames
    cases writeInteger? path.total <;> simp [hnames]

/-- Paths that agree have a summary in words, or none. -/
lemma summarize?_alike {path path' : PathSummary} (h : PathsAgree path path')
    (findings findings' : List Finding) (compression : CompressionSummary) :
    Alike (fun _ _ => True)
      (orUnwritable (summarize? path findings compression (overallSeverity findings)))
      (orUnwritable (summarize? path' findings' compression (overallSeverity findings'))) := by
  have hsome := summarize?_isSome path findings compression (overallSeverity findings)
  have hsome' := summarize?_isSome path' findings' compression (overallSeverity findings')
  rw [h.total_eq, h.isEmpty_eq, ← hsome] at hsome'
  cases htext : summarize? path findings compression (overallSeverity findings) <;>
    cases htext' : summarize? path' findings' compression (overallSeverity findings') <;>
      simp only [htext, htext', Option.isSome_none, Option.isSome_some, Bool.false_eq_true,
        reduceCtorEq] at hsome'
  · exact .error (.refl _)
  · exact .ok trivial

/-- The near-critical paths of a batch, told by the identifiers of their spans. -/
def spanPaths (tolerance : Int) (spans : List Span) : Except Failure (List SpanPath) := do
  let g ← orRefused (Graph.ofSpans spans)
  let paths ← orRefused (g.nearCriticalPaths tolerance)
  return paths.map g.read

/-- A batch has the same near-critical paths in any order. -/
lemma spanPaths_alike (hids : (spans.map (·.spanId)).Nodup) (hperm : others.Perm spans)
    (tolerance : Int) :
    Alike List.Perm (spanPaths tolerance spans) (spanPaths tolerance others) := by
  have hg := linked_build spans
  have hg' := linked_build others
  have hnumber := renumbered_of_perm hids hperm
  refine (ofSpans_alike hperm).bind fun g g' hgraphs => ?_
  obtain ⟨-, rfl, rfl⟩ := hgraphs
  by_cases hcycle : (build spans).Cyclic
  · rw [Graph.nearCriticalPaths_eq_error_iff.2 (Graph.order?_eq_error hg hcycle),
      Graph.nearCriticalPaths_eq_error_iff.2
        (Graph.order?_eq_error hg' ((hnumber.cyclic_iff hg hg').2 hcycle))]
    exact .error (.refl _)
  · obtain ⟨paths, paths', hpaths, hpaths', hsame⟩ := hnumber.exists_near_perm hg hg' hcycle
      (fun _ hnode => Graph.getElem?_spans_positionIn hperm hnode) tolerance
    rw [hpaths, hpaths']
    exact .ok hsame.symm

/-! ### Reports -/

/-- Reports about two orders of a batch agree: on the counts, on the figures of the
critical path, on loops up to the numbers of nodes, on transfers, and on the whole
compression. -/
structure Report.Agrees (number : Nat → Nat) (report report' : Report) : Prop where
  traceId_eq : report'.traceId = report.traceId
  spanCount_eq : report'.spanCount = report.spanCount
  edgeCount_eq : report'.edgeCount = report.edgeCount
  rootCount_eq : report'.rootCount = report.rootCount
  orphanCount_eq : report'.orphanCount = report.orphanCount
  criticalPath : PathsAgree report.criticalPath report'.criticalPath
  findings : FindingsAgree number report.findings report'.findings
  compression_eq : report'.compression = report.compression

/-- **What a report says does not depend on the order of the batch**, as long as no
two spans have one identifier or one clock value: a batch has a report in any order,
and the reports agree, or it has none, and fails in the same way. Nodes are numbered
anew, each with the position of its span. The near-critical paths are the same ones
for every tolerance, told by their spans. -/
theorem analysis_ignores_order (settings : Settings) (given : Option Int)
    (hids : (spans.map (·.spanId)).Nodup) (hclocks : (spans.map (·.clock)).Nodup)
    (hperm : others.Perm spans) :
    (∀ node < spans.length, others[positionIn spans others node]? = spans[node]?) ∧
    Alike (Report.Agrees (positionIn spans others)) (analyze settings given spans)
      (analyze settings given others) ∧
    ∀ tolerance, Alike List.Perm (spanPaths tolerance spans) (spanPaths tolerance others) := by
  have hg := linked_build spans
  have hg' := linked_build others
  have hnumber := renumbered_of_perm hids hperm
  refine ⟨fun _ hnode => Graph.getElem?_positionIn hperm hnode, ?_,
    spanPaths_alike hids hperm⟩
  refine (ofSpans_alike hperm).bind fun g g' hgraphs => ?_
  obtain ⟨hone, rfl, rfl⟩ := hgraphs
  refine (criticalPath_alike hids hperm).bind fun path path' hpaths => ?_
  obtain ⟨hpath, hpath'⟩ := hpaths
  obtain ⟨nodes, halong⟩ := Graph.exists_along_of_criticalPath hg hpath
  obtain ⟨nodes', halong'⟩ := Graph.exists_along_of_criticalPath hg' hpath'
  refine (Graph.findings_alike hclocks hperm halong halong' settings).bind
    fun findings findings' hfindings => ?_
  rw [compress_of_perm hclocks hperm]
  refine (Alike.refl _).bind fun c c' hcompressed => ?_
  subst hcompressed
  have hempty : path'.names.isEmpty = path.names.isEmpty := by
    rw [Bool.eq_iff_iff, List.isEmpty_iff, List.isEmpty_iff, Graph.names_eq_nil_iff hg hpath,
      Graph.names_eq_nil_iff hg' hpath', hnumber.size_eq]
  refine (summarizePath_alike (hnumber.total_eq hg hg' hpath hpath')
    (totalDuration_of_perm hperm) hempty).bind fun summary summary' hsummary => ?_
  refine (Alike.refl _).bind fun compression compression' hcompression => ?_
  subst hcompression
  refine (summarize?_alike hsummary findings findings' compression).bind fun _ _ _ => ?_
  exact .ok ⟨congrArg (·.getD "") (head?_traceId_of_perm hone hperm), hnumber.size_eq,
    hnumber.edgeCount_eq hg hg', hnumber.length_roots hg hg', hnumber.length_orphans hg hg',
    hsummary, hfindings, rfl⟩

/-- The same batch in the opposite order has another critical path, which takes the
same time. -/
theorem late_parent_reversed :
    let others := lateParent.reverse
    (lateParent.map (·.spanId)).Nodup ∧ (lateParent.map (·.clock)).Nodup ∧
      others.Perm lateParent ∧
      ∃ report report', analyze {} (some 2) lateParent = .ok report ∧
        analyze {} (some 2) others = .ok report' ∧ report.criticalPath.nodes = [1, 0] ∧
        report'.criticalPath.nodes = [2, 3, 0] ∧
        report'.criticalPath.total = report.criticalPath.total := by
  intro others
  have hids : (lateParent.map (·.spanId)).Nodup := by decide
  have hclocks : (lateParent.map (·.clock)).Nodup := by decide
  have hperm : others.Perm lateParent := List.reverse_perm lateParent
  have hpath := Graph.criticalPath_lateParent
  have hpath' : (build others).criticalPath = .ok
      { path := [2, 3, 0], total := 5, durations := [(2, 2), (3, 3), (0, 0)],
        names := ["parent", "child", "mark"] } := by
    have hok : (build others).order? = .ok [1, 2, 3, 0] := by cbv
    have hranking : (build others).ranking ((build others).distances [1, 2, 3, 0]) =
        [(0, 5), (1, 5), (2, 2), (3, 5)] := by
      cbv
    rw [Graph.criticalPath_eq_pathTo hok hranking rfl]
    cbv
  have hone : OneTrace lateParent := ⟨.ofNat 16 7, by decide⟩
  obtain ⟨nodes, halong⟩ := Graph.exists_along_of_criticalPath (linked_build lateParent) hpath
  obtain ⟨report, hreport⟩ : ∃ report, analyze {} (some 2) lateParent = .ok report :=
    halong.exists_report hpath hone (by decide) (by decide) (by decide) (by decide)
  obtain ⟨-, halike, -⟩ := analysis_ignores_order {} (some 2) hids hclocks hperm
  rw [hreport] at halike
  obtain ⟨report', hreport', hagrees⟩ := halike.exists_ok
  obtain ⟨_, heq, hnodes⟩ := exists_nodes_eq_of_analyze hreport
  obtain ⟨_, heq', hnodes'⟩ := exists_nodes_eq_of_analyze hreport'
  obtain rfl := Except.ok.inj (hpath.symm.trans heq)
  obtain rfl := Except.ok.inj (hpath'.symm.trans heq')
  exact ⟨hids, hclocks, hperm, report, report', hreport, hreport', hnodes, hnodes',
    hagrees.criticalPath.total_eq⟩

end CausalTrace
