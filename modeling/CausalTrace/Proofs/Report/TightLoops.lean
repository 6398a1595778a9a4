/-
Tight segments and tight loops.

* `Graph.exists_nameRun`: a block of one operation lies inside a run of one name;
* `Graph.exists_loop`: so a block that is long enough is inside one loop, which
  has its name;
* `Graph.sum_length_le`: the blocks inside a loop have no more spans than it;
* `loops_cover_tight_segments`: **compression and detection agree**: every tight
  segment lies inside one loop, and a report with a tight segment has a loop.
-/
import CausalTrace.Proofs.Compression.SyntheticId
import CausalTrace.Proofs.Detection.Loop
import CausalTrace.Proofs.Report.Stages
import Mathlib.Algebra.BigOperators.Ring.Finset
import Mathlib.Algebra.Ring.Int.Defs
import Mathlib.Data.List.Forall2

namespace CausalTrace

open CausalTrace.Graph (OneTrace build)

variable {settings : Settings} {given : Option Int} {minRun : Int} {spans : List Span}
  {c : Compressed} {g : Graph} {bands : Bands Int} {block : Nat × List Span} {loop : Finding}

/-! ### Blocks and loops -/

namespace Graph

/-- The blocks of one operation in the order of the clocks, each with the number
of spans in front of it. -/
def blocks (g : Graph) : List (Nat × List Span) :=
  placed List.length 0 (operationBlocks (g.byClock.map Prod.fst))

/-- A block of one operation lies inside a run of one name: operations with
different names are different. -/
lemma exists_nameRun (h : block ∈ g.blocks) :
    block.2 ≠ [] ∧ ∃ run ∈ placed Run.length 0 g.nameRuns, run.1 ≤ block.1 ∧
      block.1 + block.2.length ≤ run.1 + run.2.length ∧
        ∀ span ∈ block.2, span.name = run.2.first.1.name := by
  have hnames : ∀ a b : Span × Nat, a.1.operation = b.1.operation → a.1.name = b.1.name :=
    fun a b hab => congrArg Operation.name hab
  rw [blocks, operationBlocks, ← map_toList_runsOn, runsOn_map, List.map_map, placed_map] at h
  obtain ⟨run, hrun, rfl⟩ := List.mem_map.1 h
  simp only [Function.comp_apply, Run.length_toList, Run.length_map] at hrun
  have hmem : run.2 ∈ runsOn (fun entry : Span × Nat => entry.1.operation) g.byClock := by
    rw [← map_snd_placed Run.length 0 (runsOn _ _)]
    exact List.mem_map_of_mem hrun
  obtain ⟨outer, houter, hle, hend, hname⟩ := exists_of_mem_placed_runsOn hnames hrun
  refine ⟨by simp [Run.toList], outer, houter, hle, ?_, ?_⟩
  · simpa [Run.length_toList] using hend
  · simp only [Prod.map_snd, Function.comp_apply, Run.toList_map, List.forall_mem_map]
    intro entry hentry
    rw [← hname]
    exact hnames _ _ (key_eq_of_mem_runsOn _ _ _ hmem entry hentry)

/-- A block that is long enough for a loop is inside one, which has its name, and
inside no other. -/
lemma exists_loop (h : block ∈ g.blocks) (hlong : bands.medium < block.2.length) :
    ∃ severity name repetitions duration first last,
      (g.tightLoops bands).filter (g.isInside block) =
        [⟨severity, .tightLoop name repetitions duration first last⟩] ∧
      ∀ span ∈ block.2, span.name = name := by
  obtain ⟨hne, run, hrun, hle, hend, hname⟩ := exists_nameRun h
  obtain ⟨severity, hseverity⟩ : ∃ severity, bands.ofInt? run.2.length = some severity := by
    rw [Bands.ofInt?, Bands.severity?, if_neg (by simp; omega)]
    split_ifs <;> exact ⟨_, rfl⟩
  have hloop : loopFinding? bands run.2 = some _ := congrArg (Option.map _) hseverity
  exact ⟨_, _, _, _, _, _, filter_isInside_tightLoops hrun hloop
    ((isInside_iff hrun hloop).2 ⟨hle, hend⟩) hne, hname⟩

/-- Blocks inside a loop, in the order of the clocks, have no more spans than the
loop. -/
lemma sum_length_le {inside : List (Nat × List Span)}
    {severity : Severity} {name : String} {repetitions duration first last : Int}
    (hloop : ⟨severity, .tightLoop name repetitions duration first last⟩ ∈ g.tightLoops bands)
    (hpart : inside.Sublist g.blocks)
    (hinside : ∀ block ∈ inside,
      g.isInside block ⟨severity, .tightLoop name repetitions duration first last⟩) :
    ((inside.map fun block => block.2.length).sum : Nat) ≤ repetitions := by
  obtain ⟨run, hrun, hfound⟩ := mem_tightLoops_iff.1 hloop
  have hbetween := fun block hblock => (isInside_iff hrun hfound).1 (hinside block hblock)
  have hle := sum_size_le ((pairwise_placed ..).sublist hpart) hbetween (Nat.le_add_right _ _)
  obtain ⟨hlength, -, -⟩ := eq_of_loopFinding?_eq_some hfound
  omega

end Graph

/-! ### Reports -/

/-- The nodes of a batch are put in the same order as its spans. -/
lemma map_fst_byClock_build (spans : List Span) :
    (build spans).byClock.map Prod.fst = sortByClock spans := by
  rw [Graph.map_fst_byClock, Graph.spans_build, List.toList_toArray]

/-- Long blocks become segments that describe them. -/
lemma forall₂_describes (h : compress minRun spans = .ok c)
    (hsorted : g.byClock.map Prod.fst = sortByClock spans) :
    List.Forall₂ (fun segment block => segment.Describes block.2) c.segments
      (g.blocks.filter fun block => minRun ≤ block.2.length) := by
  obtain ⟨-, rfl⟩ := eq_of_compress_eq_ok h
  have hlong : (g.blocks.filter fun block => decide (minRun ≤ block.2.length)).map Prod.snd =
      (longRuns minRun (operationRuns spans)).map Run.toList := by
    rw [map_toList_longRuns, map_toList_operationRuns (stablySorted_sortByClock spans), ← hsorted]
    conv_rhs => rw [← map_snd_placed List.length 0 (operationBlocks _), List.filter_map]
    rfl
  rw [← List.forall₂_map_right_iff, hlong, List.forall₂_map_left_iff, List.forall₂_map_right_iff,
    List.forall₂_same]
  intro run hrun
  exact describes_summary (operation_eq_of_mem_operationRuns (List.mem_of_mem_filter hrun))

/-- A tight segment lies inside one loop, which has its name. -/
lemma exists_loop_of_isTight {segment : Segment}
    (hmem : (segment, block) ∈ c.segments.zip
      (g.blocks.filter fun block => minRun ≤ block.2.length))
    (hdescribes : segment.Describes block.2) (htight : segment.isTight settings.loop.medium) :
    ∃ severity repetitions duration first last,
      (g.tightLoops settings.loop).filter (g.isInside block) =
        [⟨severity, .tightLoop segment.operation repetitions duration first last⟩] := by
  have hblock : block ∈ g.blocks := List.mem_of_mem_filter (List.of_mem_zip hmem).2
  have hlong : settings.loop.medium < block.2.length := by
    rw [← hdescribes.count_eq]
    exact of_decide_eq_true htight
  obtain ⟨severity, name, repetitions, duration, first, last, hfilter, hname⟩ :=
    Graph.exists_loop hblock hlong
  obtain ⟨span, hspan, -⟩ := hdescribes.exists_shortest
  rw [← hname span hspan, (hdescribes.operation_eq span hspan).1] at hfilter
  exact ⟨severity, repetitions, duration, first, last, hfilter⟩

/-- A loop has at least as many repetitions as the segments inside it stand for
together. -/
lemma sum_count_le {severity : Severity} {name : String}
    {repetitions duration first last : Int} {blocks : List (Nat × List Span)}
    (hpart : blocks.Sublist g.blocks)
    (hdescribes : List.Forall₂ (fun segment block => segment.Describes block.2) c.segments blocks)
    (hloop : ⟨severity, .tightLoop name repetitions duration first last⟩ ∈ g.tightLoops bands) :
    (((c.segments.zip blocks).filter fun entry => g.isInside entry.2
      ⟨severity, .tightLoop name repetitions duration first last⟩).map
        fun entry => entry.1.count).sum ≤ repetitions := by
  obtain ⟨hlength, hzip⟩ := List.forall₂_iff_zip.1 hdescribes
  generalize hentries : ((c.segments.zip blocks).filter fun entry => g.isInside entry.2
    ⟨severity, .tightLoop name repetitions duration first last⟩) = entries
  have hcounts : entries.map (fun entry => entry.1.count) =
      (entries.map fun entry => entry.2.2.length).map Nat.cast := by
    rw [List.map_map]
    refine List.map_congr_left fun entry hentry => (hzip ?_).count_eq
    exact List.mem_of_mem_filter (hentries ▸ hentry)
  have hinside : (entries.map Prod.snd).Sublist g.blocks := by
    rw [← hentries]
    refine (List.filter_sublist.map Prod.snd).trans ?_
    rwa [List.map_snd_zip hlength.ge]
  have hle := Graph.sum_length_le hloop hinside fun block hblock => by
    obtain ⟨entry, hentry, rfl⟩ := List.mem_map.1 hblock
    rw [← hentries] at hentry
    exact (List.mem_filter.1 hentry).2
  rw [hcounts, ← Nat.cast_list_sum]
  rwa [List.map_map] at hle

/-- A report with a tight segment has a loop, and its severity is not low. -/
lemma exists_loop_of_tightSegments {report : Report}
    (h : analyze settings given spans = .ok report)
    (htight : 0 < report.compression.tightSegments) :
    (∃ finding ∈ report.findings, finding.kind = .tightLoop) ∧
      Severity.medium.weight ≤ report.severity.weight := by
  obtain ⟨stages, hstages, rfl⟩ := analyze_eq_ok_iff.1 h
  obtain ⟨ratio, savings, hcompression⟩ := exists_eq_of_summarizeCompression hstages.compression_eq
  obtain ⟨segment, hsegment, hsegmentTight⟩ : ∃ segment ∈ stages.compressed.segments,
      segment.isTight settings.loop.medium := by
    rw [Stages.report, hcompression] at htight
    exact List.countP_pos_iff.1 htight
  have hdescribes := forall₂_describes hstages.compressed_eq (map_fst_byClock_build spans)
  obtain ⟨hlength, hzip⟩ := List.forall₂_iff_zip.1 hdescribes
  obtain ⟨block, hmem⟩ : ∃ block, (segment, block) ∈ stages.compressed.segments.zip
      ((build spans).blocks.filter fun block =>
        given.getD settings.minRunLength ≤ block.2.length) := by
    rw [← List.map_fst_zip hlength.le] at hsegment
    obtain ⟨entry, hentry, rfl⟩ := List.mem_map.1 hsegment
    exact ⟨entry.2, hentry⟩
  obtain ⟨severity, repetitions, duration, first, last, hfilter⟩ :=
    exists_loop_of_isTight hmem (hzip hmem) hsegmentTight
  obtain ⟨loop, hloop⟩ : ∃ loop, loop ∈ (build spans).tightLoops settings.loop :=
    ⟨_, List.mem_of_mem_filter (hfilter ▸ List.mem_singleton_self _)⟩
  have hfinding := Graph.mem_findings_of_mem_tightLoops hstages.findings_eq hloop
  exact ⟨⟨loop, hfinding, Graph.kind_eq_of_mem_tightLoops hloop⟩,
    (Graph.medium_le_of_mem_tightLoops hloop).trans
      (weight_le_overallSeverity (ordered_findings hstages.findings_eq) loop hfinding)⟩

/-- **Compression and detection agree on tight loops**, though one compares
operations and the other names only: every tight segment lies, as a block of the
spans in the order of their clocks, inside exactly one loop. The loop has its name,
and at least as many repetitions as all segments inside the loop together. So a
report with a tight segment has a loop, and its severity is not low. -/
theorem loops_cover_tight_segments (hone : OneTrace spans) (h : compress minRun spans = .ok c)
    (settings : Settings) :
    ∃ g, Graph.ofSpans spans = .ok g ∧
      let loops := g.tightLoops settings.loop
      let blocks := g.blocks.filter fun block => minRun ≤ block.2.length
      StablySorted (fun span : Span => span.clock) spans (g.byClock.map Prod.fst) ∧
      List.Forall₂ (fun segment block => segment.Describes block.2) c.segments blocks ∧
      (∀ segment block, (segment, block) ∈ c.segments.zip blocks →
        segment.isTight settings.loop.medium →
          ∃ severity repetitions duration first last, loops.filter (g.isInside block) =
            [⟨severity, .tightLoop segment.operation repetitions duration first last⟩]) ∧
      (∀ (severity : Severity) (name : String) (repetitions duration first last : Int),
        let loop : Finding := ⟨severity, .tightLoop name repetitions duration first last⟩
        loop ∈ loops →
          g.place first + repetitions = g.place last + 1 ∧
          (((c.segments.zip blocks).filter fun entry => g.isInside entry.2 loop).map
            fun entry => entry.1.count).sum ≤ repetitions) ∧
      ∀ given report, analyze settings given spans = .ok report →
        0 < report.compression.tightSegments →
          (∃ finding ∈ report.findings, finding.kind = .tightLoop) ∧
            Severity.medium.weight ≤ report.severity.weight := by
  have hsorted := map_fst_byClock_build spans
  have hdescribes := forall₂_describes h hsorted
  obtain ⟨hlength, hzip⟩ := List.forall₂_iff_zip.1 hdescribes
  refine ⟨build spans, Graph.ofSpans_of_oneTrace hone, ?_, hdescribes, ?_, ?_, ?_⟩
  · rw [hsorted]
    exact stablySorted_sortByClock spans
  · exact fun segment block hmem htight => exists_loop_of_isTight hmem (hzip hmem) htight
  · intro severity name repetitions duration first last loop hloop
    exact ⟨Graph.place_first_add hloop, sum_count_le List.filter_sublist hdescribes hloop⟩
  · exact fun given report hreport htight => exists_loop_of_tightSegments hreport htight

/-- Two reads of each of two processes are two tight segments, but one loop. -/
theorem reads_in_turn_are_one_loop :
    let bands : Bands Int := ⟨1, 10, 100⟩
    ∃ c g loop, compress 2 readsInTurn = .ok c ∧ Graph.ofSpans readsInTurn = .ok g ∧
      c.segments.map (Segment.isTight bands.medium) = [true, true] ∧
      g.tightLoops bands = [loop] ∧ loop.pattern = .tightLoop "read" 4 400 0 3 ∧
      ∀ segment block, (segment, block) ∈ c.segments.zip
          (g.blocks.filter fun block => (2 : Int) ≤ block.2.length) →
        segment.isTight bands.medium → g.isInside block loop := by
  intro bands
  have hone : OneTrace readsInTurn := ⟨.ofNat 16 7, by decide⟩
  have hlimit : ∀ span ∈ readsInTurn, span.duration ≤ durationLimit := by decide
  have hcompress := compress_eq_ok_of_forall (show (1 : Int) ≤ 2 by decide) hlimit
  have hruns : operationRuns readsInTurn =
      [⟨readAt 1 1 5, [readAt 2 1 6]⟩, ⟨readAt 3 2 7, [readAt 4 2 8]⟩] := by
    cbv
  have hloops : (build readsInTurn).tightLoops bands =
      [⟨.medium, .tightLoop "read" 4 400 0 3⟩] := by
    have horder : (build readsInTurn).byClock = readsInTurn.zipIdx := by cbv
    rw [Graph.tightLoops, horder]
    rfl
  obtain ⟨g, hg, -, -, hinside, -, -⟩ :=
    loops_cover_tight_segments hone hcompress { loop := bands }
  obtain ⟨-, rfl⟩ := ofSpans_eq_ok_iff_oneTrace.1 hg
  refine ⟨_, _, _, hcompress, hg, ?_, hloops, rfl, fun segment block hmem htight => ?_⟩
  · rw [hruns]
    rfl
  obtain ⟨_, _, _, _, _, hfilter⟩ := hinside segment block hmem htight
  rw [hloops] at hfilter
  by_contra hnot
  rw [List.filter_cons_of_neg hnot] at hfilter
  cases hfilter

end CausalTrace
