/-
Findings about a batch in another order.

* `Finding.renumber`: a finding with the nodes of a loop renumbered;
* `byClock_of_perm`: **with different clocks, nodes are put in the same order**,
  whatever order they are given in; `tightLoops_of_perm`: so the loops are the same;
* `transferBottleneck?_of_perm`: what is found about transfers is the same, as it
  counts spans only;
* `exists_parts_of_findings`: the loops and the transfers among all findings;
* `FindingsAgree`, `findings_alike`: so all findings agree, apart from a dominant
  process.
-/
import CausalTrace.Proofs.Detection.Loop
import CausalTrace.Proofs.Detection.Outcome
import CausalTrace.Proofs.Graph.Reorder

namespace CausalTrace

/-- A finding with the nodes of a loop renumbered. -/
def Finding.renumber (number : Nat → Nat) (finding : Finding) : Finding :=
  match finding.pattern with
  | .tightLoop operation repetitions duration first last =>
    ⟨finding.severity,
      .tightLoop operation repetitions duration (number first.toNat) (number last.toNat)⟩
  | _ => finding

/-- Renumbering nodes leaves the severity. -/
lemma Finding.rank_renumber (number : Nat → Nat) (finding : Finding) :
    (finding.renumber number).rank = finding.rank := by
  obtain ⟨severity, pattern⟩ := finding
  cases pattern <;> rfl

namespace Graph

variable {spans others : List Span}

/-! ### Loops -/

/-- The nodes of a batch in another order. -/
lemma zipIdx_perm (hnodup : spans.Nodup) (hperm : others.Perm spans) :
    others.zipIdx.Perm (spans.zipIdx.map (Prod.map id (positionIn spans others))) := by
  have hothers : others.zipIdx.Nodup := by
    refine List.Nodup.of_map Prod.snd ?_
    rw [List.zipIdx_map_snd]
    exact List.nodup_range'
  have hspans : (spans.zipIdx.map (Prod.map id (positionIn spans others))).Nodup := by
    refine List.Nodup.of_map Prod.fst ?_
    rw [List.map_map]
    change (spans.zipIdx.map Prod.fst).Nodup
    rwa [List.zipIdx_map_fst]
  refine (List.perm_ext_iff_of_nodup hothers hspans).2 fun entry => ?_
  obtain ⟨span, other⟩ := entry
  simp only [List.mem_map, List.mem_zipIdx_iff_getElem?, Prod.exists, Prod.map_apply, id,
    Prod.mk.injEq]
  constructor
  · intro hother
    obtain ⟨node, hnode, heq⟩ := List.getElem_of_mem (hperm.subset (List.mem_of_getElem? hother))
    have hspan : spans[node]? = some span := List.getElem?_eq_some_iff.2 ⟨hnode, heq⟩
    exact ⟨span, node, hspan, rfl,
      positionIn_eq (hperm.nodup_iff.2 hnodup) hnode (hother.trans hspan.symm)⟩
  · rintro ⟨span, node, hspan, rfl, rfl⟩
    obtain ⟨hnode, -⟩ := List.getElem?_eq_some_iff.1 hspan
    exact (getElem?_positionIn hperm hnode).trans hspan

/-- **With different clocks, nodes are put in the same order.** -/
lemma byClock_of_perm (hclocks : (spans.map (·.clock)).Nodup) (hperm : others.Perm spans) :
    (build others).byClock =
      (build spans).byClock.map (Prod.map id (positionIn spans others)) := by
  have hnodup : spans.Nodup := List.Nodup.of_map _ hclocks
  have hsorted := (build others).stablySorted_byClock
  have hsorted' : StablySorted (fun entry : Span × Nat => entry.1.clock)
      ((build spans).spans.toList.zipIdx.map (Prod.map id (positionIn spans others)))
      ((build spans).byClock.map (Prod.map id (positionIn spans others))) :=
    StablySorted.map (build spans).stablySorted_byClock
  rw [spans_build, List.toList_toArray] at hsorted hsorted'
  refine hsorted'.eq_of_perm hsorted (zipIdx_perm hnodup hperm) ?_
  have hkeys : spans.zipIdx.map (fun entry => entry.1.clock) = spans.map (·.clock) := by
    conv_rhs => rw [← List.zipIdx_map_fst 0 spans, List.map_map]
    rfl
  rw [List.map_map]
  change (spans.zipIdx.map fun entry => entry.1.clock).Nodup
  rwa [hkeys]

/-- A loop is found in a run with its nodes renumbered. -/
lemma loopFinding?_map (bands : Bands Int) (number : Nat → Nat) (run : Run (Span × Nat)) :
    loopFinding? bands (run.map (Prod.map id number)) =
      (loopFinding? bands run).map (Finding.renumber number) := by
  have hspans : (run.map (Prod.map id number)).toList.map Prod.fst = run.toList.map Prod.fst := by
    rw [Run.toList_map, List.map_map]
    rfl
  rw [loopFinding?, loopFinding?, Run.length_map, hspans, Run.last_map, Option.map_map]
  rfl

/-- **So the loops are the same**, with their nodes renumbered. -/
lemma tightLoops_of_perm (hclocks : (spans.map (·.clock)).Nodup) (hperm : others.Perm spans)
    (bands : Bands Int) :
    (build others).tightLoops bands =
      ((build spans).tightLoops bands).map (Finding.renumber (positionIn spans others)) := by
  rw [tightLoops_eq, tightLoops_eq, nameRuns, byClock_of_perm hclocks hperm, runsOn_map,
    List.filterMap_map, List.map_filterMap]
  exact List.filterMap_congr fun run _ => loopFinding?_map bands _ run

/-! ### Transfers -/

/-- Transfers and computations take the same time in any order, and so what is found
about them is the same. -/
lemma transferBottleneck?_of_perm (hperm : others.Perm spans) (settings : Settings)
    (bands : Bands Binary64) :
    (build others).transferBottleneck? settings bands =
      (build spans).transferBottleneck? settings bands := by
  have htime : ∀ test, (build others).timeOf test = (build spans).timeOf test := by
    intro test
    simp only [timeOf, spans_build, List.toList_toArray]
    exact timeTogether_perm (hperm.filter _)
  have htransfer : (build others).transferTime settings = (build spans).transferTime settings :=
    htime _
  have hcompute : (build others).computeTime settings = (build spans).computeTime settings :=
    htime _
  rw [transferBottleneck?, transferBottleneck?, htransfer, hcompute]

/-! ### All findings -/

variable {g : Graph} {path path' : CriticalPath} {nodes nodes' : List Nat} {bands : Bands Binary64}
  {minProcesses : Int} {settings : Settings} {findings : List Finding}

/-- The findings of one kind among all. -/
lemma filter_kind_append {dominant transfer : Option Finding} {loops : List Finding}
    (hdominant : ∀ found ∈ dominant.toList, found.kind = .dominantProcess)
    (hloops : ∀ loop ∈ loops, loop.kind = .tightLoop)
    (htransfer : ∀ found ∈ transfer.toList, found.kind = .transferBottleneck) :
    ((dominant.toList ++ loops ++ transfer.toList).filter fun finding =>
        finding.kind = .tightLoop) = loops ∧
      ((dominant.toList ++ loops ++ transfer.toList).filter fun finding =>
        finding.kind = .transferBottleneck) = transfer.toList := by
  have hnone : ∀ {findings : List Finding} {kind other : PatternKind},
      (∀ found ∈ findings, found.kind = other) → other ≠ kind →
        (findings.filter fun found => found.kind = kind) = [] := fun hkind hne =>
    List.filter_eq_nil_iff.2 fun found hfound => by simpa [hkind found hfound] using hne
  have hall : ∀ {findings : List Finding} {kind : PatternKind},
      (∀ found ∈ findings, found.kind = kind) →
        (findings.filter fun found => found.kind = kind) = findings := fun hkind =>
    List.filter_eq_self.2 fun found hfound => decide_eq_true (hkind found hfound)
  constructor
  · rw [List.filter_append, List.filter_append, hnone hdominant (by decide), hall hloops,
      hnone htransfer (by decide), List.nil_append, List.append_nil]
  · rw [List.filter_append, List.filter_append, hnone hdominant (by decide),
      hnone hloops (by decide), hall htransfer, List.nil_append, List.nil_append]

/-- The loops among all findings, and what is found about transfers. -/
lemma exists_parts_of_findings (h : g.findings path settings = .ok findings) :
    StablySorted Finding.rank (g.tightLoops settings.loop)
        (findings.filter fun finding => finding.kind = .tightLoop) ∧
      ∃ transfer, g.transferBottleneck? settings settings.transfer = .ok transfer ∧
        (findings.filter fun finding => finding.kind = .transferBottleneck) = transfer.toList := by
  obtain ⟨dominant, hdominant, transfer, htransfer, rfl⟩ := findings_eq_ok_iff.1 h
  have hsorted := stablySorted_mergeSort Finding.rank
    (dominant.toList ++ g.tightLoops settings.loop ++ transfer.toList)
  obtain ⟨hloops, htransfers⟩ := filter_kind_append (kind_of_dominantProcess? hdominant)
    (fun _ hloop => kind_eq_of_mem_tightLoops hloop) (kind_of_transferBottleneck? htransfer)
  have hpart := hsorted.filter fun finding => finding.kind = .tightLoop
  rw [hloops] at hpart
  refine ⟨hpart, transfer, htransfer, ?_⟩
  -- there is at most one finding about transfers, and so nothing to put in order
  have hperm := (hsorted.filter fun finding => finding.kind = .transferBottleneck).perm
  rw [htransfers] at hperm
  cases transfer with
  | none => exact List.perm_nil.1 hperm
  | some found => exact List.perm_singleton.1 hperm

/-- Findings about two orders of a batch agree on loops, up to the numbers of nodes,
and on transfers. -/
structure FindingsAgree (number : Nat → Nat) (findings findings' : List Finding) : Prop where
  loops_eq : (findings'.filter fun finding => finding.kind = .tightLoop) =
    (findings.filter fun finding => finding.kind = .tightLoop).map (Finding.renumber number)
  transfers_eq : (findings'.filter fun finding => finding.kind = .transferBottleneck) =
    findings.filter fun finding => finding.kind = .transferBottleneck

/-- **Findings agree in any order.** Only a dominant process may differ, if another
path takes as long. -/
lemma findings_alike (hclocks : (spans.map (·.clock)).Nodup) (hperm : others.Perm spans)
    (halong : (build spans).Along path nodes) (halong' : (build others).Along path' nodes')
    (settings : Settings) :
    Alike (FindingsAgree (positionIn spans others)) ((build spans).findings path settings)
      ((build others).findings path' settings) := by
  obtain ⟨dominant, hdominant⟩ :=
    halong.exists_dominantProcess? settings.dominant settings.dominantMinProcesses
  obtain ⟨dominant', hdominant'⟩ :=
    halong'.exists_dominantProcess? settings.dominant settings.dominantMinProcesses
  have htransfer' := transferBottleneck?_of_perm hperm settings settings.transfer
  cases htransfer : (build spans).transferBottleneck? settings settings.transfer with
  | error failure =>
    rw [htransfer] at htransfer'
    simp only [Graph.findings, hdominant, hdominant', htransfer, htransfer', bind, Except.bind]
    exact .error (.refl failure)
  | ok transfer =>
    rw [htransfer] at htransfer'
    obtain ⟨findings, hfindings⟩ :
        ∃ findings, (build spans).findings path settings = .ok findings :=
      ⟨_, findings_eq_ok_iff.2 ⟨dominant, hdominant, transfer, htransfer, rfl⟩⟩
    obtain ⟨findings', hfindings'⟩ :
        ∃ findings', (build others).findings path' settings = .ok findings' :=
      ⟨_, findings_eq_ok_iff.2 ⟨dominant', hdominant', transfer, htransfer', rfl⟩⟩
    obtain ⟨hloops, found, hfound, htransfers⟩ := exists_parts_of_findings hfindings
    obtain ⟨hloops', found', hfound', htransfers'⟩ := exists_parts_of_findings hfindings'
    rw [hfindings, hfindings']
    refine .ok ⟨?_, ?_⟩
    · rw [tightLoops_of_perm hclocks hperm] at hloops'
      refine hloops'.unique (StablySorted.map ?_)
      simpa only [Finding.rank_renumber] using hloops
    · obtain rfl := Except.ok.inj (htransfer.symm.trans hfound)
      obtain rfl := Except.ok.inj (htransfer'.symm.trans hfound')
      rw [htransfers, htransfers']

end Graph
end CausalTrace
