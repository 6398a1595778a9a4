/-
The dominant process of a critical path.

* `Leads`, `leader?_timeByProcess_iff`: a process takes the most time of some spans;
* `Dominates`: a process leads on a path, and its share is in its bounds;
  `Along.nothing_found_iff`: nothing is found only if no process does;
* `dominant_process_leads`: **every process found on a critical path dominates it**, in
  every batch of one trace without a cycle, and there is always an answer.
-/
import CausalTrace.Proofs.Detection.Outcome

namespace CausalTrace

/-- The time of a process among some spans. -/
def timeOfProcess (spans : List Span) (process : Int) : Nat :=
  Span.timeTogether (spans.filter (·.process = process))

/-- The time of all other processes among some spans. -/
def timeOfOthers (spans : List Span) (process : Int) : Nat :=
  Span.timeTogether (spans.filter (·.process ≠ process))

/-- A process and the others take all the time together. -/
lemma timeOfProcess_add (spans : List Span) (process : Int) :
    timeOfProcess spans process + timeOfOthers spans process = Span.timeTogether spans := by
  rw [timeOfProcess, timeOfOthers, ← timeTogether_filter (·.process = process) spans]
  simp only [ne_eq, decide_not]

/-- The times of some spans by process: each process of a span once, with the time of
its own spans. -/
structure TimesOf (times : List (Int × Int)) (spans : List Span) : Prop where
  nodup : (times.map (·.1)).Nodup
  mem_iff : ∀ process time, (process, time) ∈ times ↔
    process ∈ spans.map (·.process) ∧ time = timeOfProcess spans process

/-- The times by process are those of some spans. -/
lemma timesOf_timeByProcess (spans : List Span) : TimesOf (timeByProcess spans) spans where
  nodup := nodup_keys_timeByProcess spans
  mem_iff _ _ := mem_timeByProcess_iff

/-- A process takes the most time of some spans, and has the lowest number of those that
do. -/
structure Leads (spans : List Span) (process : Int) : Prop where
  mem : process ∈ spans.map (·.process)
  most : ∀ other ∈ spans.map (·.process), other ≠ process →
    timeOfProcess spans other < timeOfProcess spans process ∨
      (timeOfProcess spans other = timeOfProcess spans process ∧ process < other)

/-- A process leads on the spans of a path, on which there are enough processes. Its share
of their time is above the first bound and no more than `100` percent, and if the bound is
at least `50` then it takes longer than all others together. -/
structure Dominates (spans : List Span) (bands : Bands Binary64) (minProcesses process : Int)
    (share : Binary64) : Prop extends Leads spans process where
  enough : minProcesses ≤ (spans.map (·.process)).dedup.length
  share_eq : percentage (timeOfProcess spans process) (Span.timeTogether spans) = .ok share
  above : bands.medium.lt share
  share_le : share.le (.ofNat 100)
  majority : (Binary64.ofNat 50).le bands.medium →
    timeOfOthers spans process < timeOfProcess spans process

/-- The leader of the times by process is the process that leads. -/
lemma leader?_timeByProcess_iff {spans : List Span} {process time : Int} :
    Tally.leader? (timeByProcess spans) = some (process, time) ↔
      Leads spans process ∧ time = timeOfProcess spans process := by
  rw [Tally.leader?_eq_some_iff]
  constructor
  · rintro ⟨hmem, hbest⟩
    obtain ⟨hprocess, rfl⟩ := mem_timeByProcess_iff.1 hmem
    refine ⟨⟨hprocess, fun other hother hne => ?_⟩, rfl⟩
    have hother := hbest _ (mem_timeByProcess_iff.2 ⟨hother, rfl⟩)
    rw [Tally.NoWorse] at hother
    rw [timeOfProcess, timeOfProcess]
    omega
  · rintro ⟨hleads, rfl⟩
    refine ⟨mem_timeByProcess_iff.2 ⟨hleads.mem, rfl⟩, ?_⟩
    rintro ⟨other, time⟩ hentry
    obtain ⟨hother, rfl⟩ := mem_timeByProcess_iff.1 hentry
    by_cases hne : other = process
    · subst hne
      exact Tally.NoWorse.refl _
    · have hmost := hleads.most other hother hne
      rw [timeOfProcess, timeOfProcess] at hmost
      rw [Tally.NoWorse, timeOfProcess]
      omega

/-- Only one process leads. -/
lemma Leads.eq {spans : List Span} {process other : Int} (h : Leads spans process)
    (hother : Leads spans other) : other = process := by
  by_contra hne
  have hle := h.most other hother.mem hne
  have hge := hother.most process h.mem (Ne.symm hne)
  omega

/-- No span takes longer than the process that leads, and so all together take at most its
time for each. -/
lemma Leads.timeTogether_le {spans : List Span} {process : Int} (h : Leads spans process) :
    Span.timeTogether spans ≤ spans.length * timeOfProcess spans process := by
  refine timeTogether_le_mul fun span hspan => ?_
  have hown : span.duration ≤ timeOfProcess spans span.process :=
    duration_le_timeTogether (List.mem_filter.2 ⟨hspan, decide_eq_true rfl⟩)
  by_cases hne : span.process = process
  · rwa [hne] at hown
  · have hmost := h.most span.process (List.mem_map_of_mem hspan) hne
    omega

namespace Graph

variable {g : Graph} {path : CriticalPath} {nodes : List Nat} {spans : List Span}
  {bands : Bands Binary64} {minProcesses : Int}

/-- Nothing is found on a critical path exactly if it takes no time, there are not enough
processes on it, or the share of the one that leads is not above the first bound. -/
lemma Along.nothing_found_iff (h : g.Along path nodes) :
    g.dominantProcess? path bands minProcesses = .ok none ↔ path.total = 0 ∨
      ((path.path.filterMap g.span?).map (·.process)).dedup.length < minProcesses ∨
      ∃ process share, Leads (path.path.filterMap g.span?) process ∧
        percentage (timeOfProcess (path.path.filterMap g.span?) process) path.total = .ok share ∧
        share.le bands.medium := by
  have htotal := h.timeTogether_eq
  by_cases hnil : path.path = []
  · have hzero : path.total = 0 := by
      rw [← htotal, hnil]
      rfl
    simp [dominantProcess?_of_nil hnil, hzero]
  obtain ⟨process, time, hleader⟩ := h.exists_leader hnil
  obtain ⟨hleads, rfl⟩ := leader?_timeByProcess_iff.1 hleader
  -- the process that leads takes no time only if the path takes none
  have hzero : path.total ≤ 0 ∨
      (timeOfProcess (path.path.filterMap g.span?) process : Int) = 0 ↔ path.total = 0 := by
    have hle := hleads.timeTogether_le
    constructor
    · rintro (hle | hzero)
      · omega
      · rw [Int.natCast_eq_zero.1 hzero, Nat.mul_zero] at hle
        omega
    · omega
  have honly : (∃ share, percentage (timeOfProcess (path.path.filterMap g.span?) process)
        path.total = .ok share ∧ share.le bands.medium) ↔
      ∃ process share, Leads (path.path.filterMap g.span?) process ∧
        percentage (timeOfProcess (path.path.filterMap g.span?) process) path.total = .ok share ∧
        share.le bands.medium := by
    constructor
    · rintro ⟨share, hshare⟩
      exact ⟨process, share, hleads, hshare⟩
    · rintro ⟨other, share, hother, hshare⟩
      obtain rfl := hleads.eq hother
      exact ⟨share, hshare⟩
  rw [dominantProcess?_eq_none_iff hleader, honly, ← length_timeByProcess, ← processTimes_eq]
  grind

/-- A process found on a critical path dominates it. -/
lemma Along.exists_dominates (h : g.Along path nodes) (hmedium : bands.medium ≠ .nan)
    {finding : Finding} (hfound : g.dominantProcess? path bands minProcesses = .ok (some finding)) :
    ∃ severity process share,
      Dominates (path.path.filterMap g.span?) bands minProcesses process share ∧
        bands.ofFloat? share = some severity ∧
        finding = ⟨severity, .dominantProcess process share
          (timeOfProcess (path.path.filterMap g.span?) process)⟩ := by
  have hne : path.path ≠ [] := by
    intro hnil
    rw [dominantProcess?_of_nil hnil] at hfound
    cases hfound
  obtain ⟨process, time, hleader⟩ := h.exists_leader hne
  obtain ⟨hchecks, share, severity, hshare, hseverity, rfl⟩ :=
    (dominantProcess?_eq_some_iff hleader).1 hfound
  obtain ⟨hleads, rfl⟩ := leader?_timeByProcess_iff.1 hleader
  simp only [not_or, Int.not_le, Int.not_lt] at hchecks
  obtain ⟨-, htotal, henough, -⟩ := hchecks
  rw [← h.timeTogether_eq] at hshare htotal
  -- the leader and the other processes share the total of the path
  have hsum := timeOfProcess_add (path.path.filterMap g.span?) process
  have hnonneg : (0 : Int) ≤ timeOfProcess (path.path.filterMap g.span?) process :=
    Int.natCast_nonneg _
  have hhundred : share.le (.ofNat 100) :=
    percentage_le hnonneg htotal Int.one_pos (by omega) hshare percentage_whole
  have hnot : ¬ share.le bands.medium := by
    intro hle
    rw [ofFloat?_eq_none_iff.2 hle] at hseverity
    cases hseverity
  refine ⟨severity, process, share, ⟨hleads, ?_, hshare, ?_, hhundred, ?_⟩, hseverity, rfl⟩
  · rwa [← length_timeByProcess, ← processTimes_eq]
  · exact Binary64.lt_of_not_le (Binary64.ne_nan_of_le hhundred) hmedium hnot
  · -- at most half of the total would come out as no more than `50` percent
    intro hfifty
    by_contra hminor
    exact hnot (Binary64.le_trans
      (percentage_le hnonneg htotal (by decide) (by omega) hshare percentage_half) hfifty)

/-- The times of the processes on a critical path add up to its total. -/
lemma Along.sum_processTimes (h : g.Along path nodes) :
    ((g.processTimes path.path).map (·.2)).sum = path.total := by
  rw [processTimes_eq, sum_timeByProcess, h.timeTogether_eq]

/-- The spans at some nodes of a batch. -/
def spansAt (spans : List Span) (nodes : List Nat) : List Span :=
  nodes.filterMap fun node => spans[node]?

/-- **What is found dominates.** A batch of one trace without a cycle has a critical path,
along some of its nodes. The times of the processes on the path are those of their own
spans on it, and add up to its total. Whatever the bounds are, as long as the first one is
a number, there is an answer about a dominant process. Nothing is found exactly if the path
takes no time, there are not enough processes on it, or the share of the one that leads is
not above the first bound. And if one is found then with its own time on the path: of all
processes on the path it takes the most time and has the lowest number of those that do,
and its share of the total is above the first bound and at most `100` percent. If that
bound is at least `50` then the process takes longer than all others on the path
together. -/
theorem dominant_process_leads {spans : List Span} (hone : OneTrace spans) :
    ∃ g, ofSpans spans = .ok g ∧ (¬ g.Cyclic → ∃ (path : CriticalPath) (nodes : List Nat),
      g.criticalPath = .ok path ∧ g.Along path nodes ∧
      TimesOf (g.processTimes path.path) (spansAt spans nodes) ∧
      ((g.processTimes path.path).map (·.2)).sum = path.total ∧
      ∀ (bands : Bands Binary64) (minProcesses : Int), bands.medium ≠ .nan →
        ∃ finding?, g.dominantProcess? path bands minProcesses = .ok finding? ∧
          (finding? = none ↔ path.total = 0 ∨
            ((spansAt spans nodes).map (·.process)).dedup.length < minProcesses ∨
            ∃ process share, Leads (spansAt spans nodes) process ∧
              percentage (timeOfProcess (spansAt spans nodes) process) path.total = .ok share ∧
              share.le bands.medium) ∧
          ∀ finding, finding? = some finding → ∃ severity process share,
            Dominates (spansAt spans nodes) bands minProcesses process share ∧
            bands.ofFloat? share = some severity ∧
            finding = ⟨severity, .dominantProcess process share
              (timeOfProcess (spansAt spans nodes) process)⟩) := by
  refine ⟨build spans, ofSpans_of_oneTrace hone, fun hcycle => ?_⟩
  obtain ⟨path, nodes, hpath, halong⟩ := exists_along (linked_build spans) hcycle
  have hspans : path.path.filterMap (build spans).span? = spansAt spans nodes := by
    rw [halong.filterMap_span?, spansAt]
    simp only [spans_build, List.getElem?_toArray]
  refine ⟨path, nodes, hpath, halong, ?_, halong.sum_processTimes, ?_⟩
  · rw [processTimes_eq, hspans]
    exact timesOf_timeByProcess _
  · intro bands minProcesses hmedium
    obtain ⟨finding?, hfinding⟩ := halong.exists_dominantProcess? bands minProcesses
    refine ⟨finding?, hfinding, ?_, ?_⟩
    · have hnone : (build spans).dominantProcess? path bands minProcesses = .ok none ↔
          finding? = none := by
        rw [hfinding, Except.ok.injEq]
      rw [← hnone, halong.nothing_found_iff, hspans]
    · rintro finding rfl
      have hdominates := halong.exists_dominates hmedium hfinding
      rwa [hspans] at hdominates

/-- A span of one process with a child of another that takes three times as long, and a
child of the same that takes twice as long and is not on the critical path. -/
def hotChild : List Span :=
  [{ name := "root", startTime := 0, endTime := 1000, clock := 0, process := 1, thread := 1,
     traceId := .ofNat 16 7, spanId := .ofNat 8 1, parentId := none },
   { name := "hot", startTime := 0, endTime := 3000, clock := 1, process := 2, thread := 1,
     traceId := .ofNat 16 7, spanId := .ofNat 8 2, parentId := some (.ofNat 8 1) },
   { name := "side", startTime := 0, endTime := 2000, clock := 2, process := 1, thread := 1,
     traceId := .ofNat 16 7, spanId := .ofNat 8 3, parentId := some (.ofNat 8 1) }]

/-- The critical path of the batch. -/
def hotPath : CriticalPath :=
  { path := [0, 1], total := 4000, durations := [(0, 1000), (1, 3000)], names := ["root", "hot"] }

lemma processTimes_hotPath :
    (build hotChild).processTimes hotPath.path = [(1, 1000), (2, 3000)] :=
  (processTimes_build hotChild [0, 1]).trans rfl

/-- The process of the child is found on it, with three quarters of its time. -/
lemma dominantProcess?_hotPath :
    (build hotChild).dominantProcess? hotPath ⟨.ofNat 50, .ofNat 90, .ofNat 95⟩ 2 =
      .ok (some ⟨.medium, .dominantProcess 2 (.ofNat 75) 3000⟩) := by
  refine (dominantProcess?_eq_some_iff (congrArg Tally.leader? processTimes_hotPath)).2
    ⟨?_, .ofNat 75, .medium, by decide +kernel, by decide +kernel, rfl⟩
  rw [processTimes_hotPath]
  decide

/-- The process of the child dominates, though both take the same time in all. -/
theorem hot_child_leads :
    OneTrace hotChild ∧ timeOfProcess hotChild 1 = timeOfProcess hotChild 2 ∧
      ∃ g nodes, ofSpans hotChild = .ok g ∧ ¬ g.Cyclic ∧ g.criticalPath = .ok hotPath ∧
        g.Along hotPath nodes ∧
        g.dominantProcess? hotPath ⟨.ofNat 50, .ofNat 90, .ofNat 95⟩ 2 =
          .ok (some ⟨.medium, .dominantProcess 2 (.ofNat 75) 3000⟩) ∧
        Dominates (spansAt hotChild nodes) ⟨.ofNat 50, .ofNat 90, .ofNat 95⟩ 2 2 (.ofNat 75) ∧
        timeOfOthers (spansAt hotChild nodes) 2 < 3000 := by
  have hone : OneTrace hotChild := ⟨.ofNat 16 7, by simp [hotChild]⟩
  obtain ⟨g, hg, hleads⟩ := dominant_process_leads hone
  obtain ⟨-, rfl⟩ := ofSpans_eq_ok_iff.1 hg
  have hcycle : ¬ (build hotChild).Cyclic := (isAcyclic_iff (linked_build hotChild)).1 (by cbv)
  obtain ⟨path, nodes, hpath, halong, -, -, hfinds⟩ := hleads hcycle
  have hok : (build hotChild).order? = .ok [0, 2, 1] := by cbv
  have hranking : (build hotChild).ranking ((build hotChild).distances [0, 2, 1]) =
      [(0, 1000), (1, 4000), (2, 3000)] := by
    cbv
  have heval : (build hotChild).criticalPath = .ok hotPath := by
    rw [criticalPath_eq_pathTo hok hranking rfl]
    cbv
  obtain rfl := Except.ok.inj (heval.symm.trans hpath)
  obtain ⟨finding?, hfinding, -, hall⟩ :=
    hfinds ⟨.ofNat 50, .ofNat 90, .ofNat 95⟩ 2 (by decide +kernel)
  obtain rfl := Except.ok.inj (hfinding.symm.trans dominantProcess?_hotPath)
  obtain ⟨severity, process, share, hdominates, -, heq⟩ := hall _ rfl
  simp only [Finding.mk.injEq, Pattern.dominantProcess.injEq] at heq
  obtain ⟨rfl, rfl, rfl, htime⟩ := heq
  have hmajority := hdominates.majority (by decide +kernel)
  exact ⟨hone, by cbv, _, nodes, hg, hcycle, heval, halong, hfinding, hdominates, by omega⟩

end Graph
end CausalTrace
