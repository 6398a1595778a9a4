/-
The accounts of a report.

* `edgeCount_add_roots_add_orphans`: every node is a root, an orphan or at the
  end of an edge;
* `exists_parts`: the parts of a summary, each left out if there is nothing to say;
  `summary_eq_iff`: it says that there are no spans exactly if all of them are;
* `Stages.Reached.bottleneck`: the bottleneck of the critical path of a batch;
* `report_accounts_balance`: **the figures of a report agree with each other**,
  though each part counts on its own.
-/
import CausalTrace.Proofs.Compression.Segments
import CausalTrace.Proofs.CriticalPath.Bottleneck
import CausalTrace.Proofs.Detection.Severity
import CausalTrace.Proofs.Report.Outcome
import CausalTrace.Proofs.Report.Stages

namespace CausalTrace

open CausalTrace.Graph (OneTrace build linked_build size_build)

variable {settings : Settings} {given : Option Int} {spans : List Span} {stages : Stages}

/-! ### Nodes -/

/-- Every node is a root, an orphan or at the end of an edge. -/
lemma edgeCount_add_roots_add_orphans {g : Graph} (hg : g.Linked) :
    g.edgeCount + g.roots.length + g.orphans.length = g.size := by
  have hall : ∀ nodes : List Nat, (nodes.countP fun node => (g.origin node).parent?.isSome) +
      (nodes.filter fun node => g.origin node = .root).length +
      (nodes.filter fun node => g.origin node = .orphan).length = nodes.length := by
    intro nodes
    induction nodes with
    | nil => rfl
    | cons node nodes ih =>
      rw [List.length_cons, ← ih, List.countP_cons, List.filter_cons, List.filter_cons]
      cases g.origin node <;> simp [Origin.parent?] <;> omega
  rw [hg.edgeCount_eq, hg.roots_eq, hg.orphans_eq, hall, Graph.nodes, List.length_range]

/-! ### The summary in words -/

/-- Steps that are the same after either of two first steps come after the one that
is taken. -/
lemma exists_of_ite_bind {α β : Type} {c : Prop} [Decidable c] {x y : Option α}
    {f : α → Option β} {b : β} (h : (if c then x >>= f else y >>= f) = some b) :
    ∃ a, (if c then x else y) = some a ∧ f a = some b := by
  split at h <;> rename_i hc
  · rw [if_pos hc]
    exact Option.bind_eq_some_iff.1 h
  · rw [if_neg hc]
    exact Option.bind_eq_some_iff.1 h

/-- A summary has four parts: about the path, its bottleneck, the findings and the
compression. Each of them is left out if there is nothing to say. -/
lemma exists_parts {path : PathSummary} {findings : List Finding}
    {compression : CompressionSummary} {parts : List String}
    (h : summaryParts? path findings compression = some parts) :
    ∃ pathPart bottleneckPart findingsPart compressionPart,
      parts = pathPart ++ bottleneckPart ++ findingsPart ++ compressionPart ∧
      (pathPart = [] ↔ path.names = []) ∧
      (bottleneckPart = [] ↔ path.bottleneckName.getD "" = "") ∧
      (findingsPart = [] ↔ findings = []) ∧
      (compressionPart = [] ↔ compression.segmentCount = 0) := by
  rw [summaryParts?] at h
  obtain ⟨pathPart, hpathPart, hparts⟩ := exists_of_ite_bind h
  refine ⟨pathPart, _, _, _, (Option.some.inj hparts).symm, ?_, ?_, ?_, ?_⟩
  · split at hpathPart <;> rename_i hnames
    · obtain rfl := Option.some.inj hpathPart
      simpa using hnames
    · obtain ⟨total, -, rfl⟩ := Option.map_eq_some_iff.1 hpathPart
      simpa using hnames
  · cases path.bottleneckName with
    | none => simp
    | some name => by_cases hname : name = "" <;> simp [hname]
  · cases findings <;> simp
  · by_cases hcount : compression.segmentCount = 0 <;> simp [hcount]

/-- The summary says that there are no spans exactly if it has nothing else to
say. -/
lemma summary_eq_iff {path : PathSummary} {findings : List Finding}
    {compression : CompressionSummary} {severity : Severity} {text : String}
    (h : summarize? path findings compression severity = some text) :
    text = "No spans to analyze." ↔ path.names = [] ∧ path.bottleneckName.getD "" = "" ∧
      findings = [] ∧ compression.segmentCount = 0 := by
  obtain ⟨parts, hparts, rfl⟩ := Option.map_eq_some_iff.1 h
  -- any part is put behind a bracket
  have htext : (if parts.isEmpty then "No spans to analyze."
      else "[" ++ severity.capitals ++ "] " ++ " | ".intercalate parts ++ ".") =
        "No spans to analyze." ↔ parts = [] := by
    cases parts with
    | nil => simp
    | cons part parts =>
      simp only [List.isEmpty_cons, Bool.false_eq_true, if_false, reduceCtorEq, iff_false]
      intro heq
      have hchars := congrArg String.toList heq
      simp at hchars
  obtain ⟨pathPart, bottleneckPart, findingsPart, compressionPart, hsplit, hpath, hbottleneck,
    hfindings, hcompression⟩ := exists_parts hparts
  rw [htext, hsplit, List.append_eq_nil_iff, List.append_eq_nil_iff, List.append_eq_nil_iff,
    hpath, hbottleneck, hfindings, hcompression, and_assoc, and_assoc]

/-! ### The report -/

/-- Nothing is found in a graph without nodes. -/
lemma findings_build_nil (settings : Settings) : (build []).findings {} settings = .ok [] := by
  have hloops : (build []).tightLoops settings.loop = [] := by
    simp [Graph.tightLoops, Graph.byClock, Repetition.close]
  exact findings_eq_ok_iff.2 ⟨none, rfl, none, rfl, by simp [hloops]⟩

/-- A batch without spans goes through its stages with nothing found. -/
lemma Stages.Reached.of_nil (h : stages.Reached settings given []) :
    stages.criticalPath.names = [] ∧ stages.criticalPath.bottleneckName.getD "" = "" ∧
      stages.findings = [] ∧ stages.compression.segmentCount = 0 := by
  obtain hpath : {} = stages.path := Except.ok.inj h.path_eq
  have hfindings : [] = stages.findings :=
    Except.ok.inj ((findings_build_nil settings).symm.trans (hpath ▸ h.findings_eq))
  obtain ⟨percentage, hsummary⟩ := exists_eq_of_summarizePath h.criticalPath_eq
  obtain ⟨ratio, savings, hcompression⟩ := exists_eq_of_summarizeCompression h.compression_eq
  obtain ⟨-, hcompressed⟩ := eq_of_compress_eq_ok h.compressed_eq
  have hruns : operationRuns [] = [] := by
    simp [operationRuns, sortByClock, cut, cutBehind]
  rw [hsummary, hcompression, hcompressed, hruns, ← hpath]
  exact ⟨rfl, rfl, hfindings.symm, rfl⟩

/-- The critical path of a batch has names, nodes and a bottleneck among them:
the path takes at least as long as that and at most that time for each of its
nodes, and the batch at least as long. -/
lemma Stages.Reached.bottleneck (h : stages.Reached settings given spans) (hne : spans ≠ []) :
    stages.criticalPath.names ≠ [] ∧
      ∃ node duration, stages.criticalPath.bottleneckNode = some node ∧
        stages.criticalPath.bottleneckDuration = some duration ∧
        node ∈ stages.criticalPath.nodes ∧
        duration ≤ stages.criticalPath.total ∧
        stages.criticalPath.total ≤ stages.criticalPath.nodes.length * duration ∧
        duration ≤ stages.criticalPath.traceDuration := by
  have hg := linked_build spans
  have hsize : 0 < (build spans).size := size_build spans ▸ List.length_pos_iff.2 hne
  obtain ⟨order, last, horder, hlast, hpath, -⟩ := Graph.exists_eq_pathTo hg hsize h.path_eq
  have hwalk := Graph.isWalk_chain hg horder (horder.grounded hg hlast)
  obtain ⟨node, hnode, hleader, hlongest⟩ := Graph.exists_leader?_durations hwalk.ne_nil
  obtain ⟨percentage, hsummary⟩ := exists_eq_of_summarizePath h.criticalPath_eq
  have htotal : stages.path.total = (build spans).time ((build spans).chain last) := by
    rw [hpath]
    exact congrArg Nat.cast (Graph.getD_distances hg horder hlast)
  have hentry : stages.path.longest? =
      some ((node : Int), ((build spans).duration node : Int)) := by
    rw [hpath]
    exact hleader
  rw [hsummary, hentry, htotal, hpath]
  refine ⟨by simpa [Graph.pathTo] using hwalk.ne_nil, node, (build spans).duration node, rfl, rfl,
    List.mem_map_of_mem hnode, ?_, ?_, ?_⟩
  · exact Int.ofNat_le.2 (Graph.duration_le_time hnode)
  · change ((build spans).time _ : Int) ≤ (List.map Int.ofNat _).length * _
    rw [List.length_map]
    exact_mod_cast Graph.time_le_mul hlongest
  · exact Int.ofNat_le.2 (Graph.duration_le_totalDuration (hwalk.lt_size node hnode))

/-- A batch with spans has a node without a parent in it: the first of its
critical path. -/
lemma Stages.Reached.exists_isTop (h : stages.Reached settings given spans) (hne : spans ≠ []) :
    ∃ top, (build spans).IsTop top := by
  have hg := linked_build spans
  have hsize : 0 < (build spans).size := size_build spans ▸ List.length_pos_iff.2 hne
  obtain ⟨order, last, horder, hlast, -, -⟩ := Graph.exists_eq_pathTo hg hsize h.path_eq
  obtain ⟨top, -, htop⟩ := Graph.exists_head?_chain hg horder (horder.grounded hg hlast)
  exact ⟨top, htop⟩

/-- **The accounts of a report balance**: each span is a root, an orphan or at
the end of an edge, and each is in a segment or is kept. Unless there are no
spans, some node has no parent, and the critical path has a bottleneck, which is
one of its nodes: it takes no longer than the path, the path no longer than that
time for each of its nodes, and no span takes longer than the batch. The overall
severity is that of the first finding, and no other is more severe. The summary
says that there are no spans exactly if there are none. -/
theorem report_accounts_balance {report : Report} (h : analyze settings given spans = .ok report) :
    report.spanCount = spans.length ∧
    report.spanCount = report.edgeCount + report.rootCount + report.orphanCount ∧
    report.compression.givenCount = report.spanCount ∧
    report.compression.compressedSpans + report.compression.uncompressedCount = report.spanCount ∧
    (spans ≠ [] → 1 ≤ report.rootCount + report.orphanCount ∧ report.criticalPath.nodes ≠ [] ∧
      ∃ node duration, report.criticalPath.bottleneckNode = some node ∧
        report.criticalPath.bottleneckDuration = some duration ∧
        node ∈ report.criticalPath.nodes ∧
        duration ≤ report.criticalPath.total ∧
        report.criticalPath.total ≤ report.criticalPath.nodes.length * duration ∧
        duration ≤ report.criticalPath.traceDuration) ∧
    report.severity = (report.findings.head?.map (·.severity)).getD .low ∧
    (∀ finding ∈ report.findings, finding.severity.weight ≤ report.severity.weight) ∧
    (report.summary = "No spans to analyze." ↔ spans = []) := by
  obtain ⟨stages, hstages, rfl⟩ := analyze_eq_ok_iff.1 h
  obtain ⟨ratio, savings, hcompression⟩ := exists_eq_of_summarizeCompression hstages.compression_eq
  have htotal := totalSpans_of_compress_eq_ok hstages.compressed_eq
  obtain ⟨-, hcompressed⟩ := eq_of_compress_eq_ok hstages.compressed_eq
  have hordered := ordered_findings hstages.findings_eq
  have hsize : (stages.report spans).spanCount = spans.length := size_build spans
  refine ⟨hsize, (edgeCount_add_roots_add_orphans (linked_build _)).symm, ?_, ?_, ?_,
    overallSeverity_eq hordered, weight_le_overallSeverity hordered, ?_⟩
  · rw [hsize]
    simp only [Stages.report, hcompression, hcompressed]
  · rw [hsize]
    simp only [Stages.report, hcompression]
    exact htotal
  · intro hne
    obtain ⟨-, node, duration, hnode, hduration, hmem, hbounds⟩ := hstages.bottleneck hne
    refine ⟨?_, List.ne_nil_of_mem hmem, node, duration, hnode, hduration, hmem, hbounds⟩
    obtain ⟨top, htop | htop⟩ := hstages.exists_isTop hne
    · exact Nat.le_add_right_of_le (List.length_pos_of_mem htop)
    · exact Nat.le_add_left_of_le (List.length_pos_of_mem htop)
  · refine (summary_eq_iff hstages.summary_eq).trans ⟨fun hnone => ?_, ?_⟩
    · by_contra hne
      exact (hstages.bottleneck hne).1 hnone.1
    · rintro rfl
      exact hstages.of_nil

/-- The accounts of a batch in which a parent comes after its child, one parent
is missing, and a span ends before it starts. -/
theorem late_parent_accounts_balance :
    ∃ report, analyze {} (some 2) Graph.lateParent = .ok report ∧
      report.edgeCount + report.rootCount + report.orphanCount = 4 ∧
      report.compression.compressedSpans + report.compression.uncompressedCount = 4 ∧
      (∃ node duration, report.criticalPath.bottleneckNode = some node ∧
        node ∈ report.criticalPath.nodes ∧ duration ≤ report.criticalPath.total ∧
        duration ≤ report.criticalPath.traceDuration) ∧
      report.severity = (report.findings.head?.map (·.severity)).getD .low ∧
      report.summary ≠ "No spans to analyze." := by
  have hone : OneTrace Graph.lateParent := ⟨.ofNat 16 7, by simp [Graph.lateParent]⟩
  have hacyclic : ¬ (build Graph.lateParent).Cyclic :=
    (Graph.isAcyclic_iff (linked_build _)).1 (by cbv)
  obtain ⟨path, nodes, hpath, halong⟩ := Graph.exists_along (linked_build _) hacyclic
  obtain ⟨report, hreport⟩ : ∃ report, analyze {} (some 2) Graph.lateParent = .ok report :=
    halong.exists_report hpath hone (by decide) (by decide) (by decide) (by decide)
  obtain ⟨hcount, hnodes, -, hspans, hpath, hseverity, -, hsummary⟩ :=
    report_accounts_balance hreport
  have hlength : report.spanCount = 4 := hcount
  have hne : Graph.lateParent ≠ [] := List.cons_ne_nil _ _
  obtain ⟨-, -, node, duration, hnode, -, hmem, hle, -, htime⟩ := hpath hne
  exact ⟨report, hreport, by rw [← hnodes, hlength], by rw [hspans, hlength]; rfl,
    ⟨node, duration, hnode, hmem, hle, htime⟩, hseverity, fun heq => hne (hsummary.1 heq)⟩

end CausalTrace
