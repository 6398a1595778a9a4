/-
Whole sessions: the spans that a session records, and their causal graph.

* `run`, `acceptances`: the session after some steps, and the spans that were
  accepted on the way;
* `recorded_run`, `recorded_before`: they are what is recorded, each behind those
  accepted before it;
* `pairwise_clock`: **their clocks ascend**;
* `Coherent`: they are of one trace, with different identifiers, and their
  parents are among them unless they come from elsewhere;
  `parentsFirst_of_coherent`: then each parent comes before its children;
* `recording_orders_spans`: so a session stamps its spans in the order of their
  clocks, and **their causal graph has edges forward only**.
-/
import CausalTrace.Proofs.Graph.Cycle
import CausalTrace.Proofs.Graph.Forward
import CausalTrace.Proofs.Recorder.Step

namespace CausalTrace
namespace Session

variable {session start : Session} {steps : List Step} {call : Acceptance} {node : Nat}

/-! ### Runs -/

/-- The session after some steps. -/
def run (session : Session) (steps : List Step) : Session :=
  steps.foldl step session

/-- The spans that are accepted in some steps, in order. -/
def acceptances (session : Session) : List Step → List Acceptance
  | [] => []
  | first :: rest => (session.accepted? first).toList ++ (session.step first).acceptances rest

/-- The spans that are accepted are those that are recorded. -/
lemma recorded_run (session : Session) (steps : List Step) :
    (session.run steps).recorded.toList =
      session.recorded.toList ++ (session.acceptances steps).map (·.span) := by
  induction steps generalizing session with
  | nil => simp [run, acceptances]
  | cons first rest ih =>
    change ((session.step first).run rest).recorded.toList = _
    rw [ih, recorded_step, acceptances, List.map_append, List.append_assoc]

/-- Every accepted span is stamped, and not before the clock at the start. -/
lemma stamped_of_mem_acceptances (h : call ∈ session.acceptances steps) :
    call.Stamped ∧ session.clock.now ≤ call.span.clock := by
  induction steps generalizing session with
  | nil => cases h
  | cons first rest ih =>
    rw [acceptances, List.mem_append, Option.mem_toList] at h
    rcases h with hfirst | hrest
    · obtain ⟨rfl, hstamped, -⟩ := stamped_of_accepted? hfirst
      exact ⟨hstamped, Int.le_of_eq hstamped.clock_eq.symm⟩
    · obtain ⟨hstamped, hle⟩ := ih hrest
      exact ⟨hstamped, Int.le_trans (Int.ofNat_le.2 (session.now_le_step first)) hle⟩

/-- **The clocks of the accepted spans ascend.** -/
lemma pairwise_clock (session : Session) (steps : List Step) :
    (session.acceptances steps).Pairwise fun a b => a.span.clock < b.span.clock := by
  induction steps generalizing session with
  | nil => exact List.Pairwise.nil
  | cons first rest ih =>
    rw [acceptances]
    cases hfirst : session.accepted? first with
    | none => exact ih _
    | some call =>
      refine List.Pairwise.cons (fun later hlater => ?_) (ih _)
      obtain ⟨-, -, hlt⟩ := stamped_of_accepted? hfirst
      exact Int.lt_of_lt_of_le hlt (stamped_of_mem_acceptances hlater).2

/-- Before a span is accepted, the spans accepted before it are recorded. -/
lemma recorded_before (h : (session.acceptances steps)[node]? = some call) :
    call.before.recorded.toList =
      session.recorded.toList ++ ((session.acceptances steps).take node).map (·.span) := by
  induction steps generalizing session node with
  | nil => cases h
  | cons first rest ih =>
    rw [acceptances] at h ⊢
    have hrecorded := session.recorded_step first
    cases hfirst : session.accepted? first with
    | none =>
      rw [hfirst] at h hrecorded
      rw [Option.toList_none, List.nil_append] at h ⊢
      rw [ih h, hrecorded, Option.toList_none, List.map_nil, List.append_nil]
    | some accepted =>
      rw [hfirst] at h hrecorded
      rw [Option.toList_some, List.singleton_append] at h ⊢
      cases node with
      | zero =>
        obtain rfl := Option.some.inj h
        obtain ⟨rfl, -⟩ := stamped_of_accepted? hfirst
        simp
      | succ node =>
        rw [ih h, hrecorded, List.take_succ_cons, List.append_assoc]
        rfl

/-! ### The graph of a session -/

/-- A parent that is asked for by its identifier is a span recorded earlier. A
parent that is asked for by its position always is. -/
def Acceptance.ParentKnown (call : Acceptance) : Prop :=
  ∀ bytes, call.request.parent = some (.ident bytes) →
    ∃ earlier ∈ call.before.recorded.toList, bytes = earlier.spanId.bytes

/-- Accepted spans that make one trace: they have one trace identifier and
different span identifiers, the parents asked for are among them, and no parent
from elsewhere is. -/
structure Coherent (calls : List Acceptance) : Prop where
  oneTrace : Graph.OneTrace (calls.map (·.span))
  distinct : ((calls.map (·.span)).map (·.spanId)).Nodup
  parentKnown : ∀ call ∈ calls, call.ParentKnown
  remote_ne : ∀ call ∈ calls, ∀ other ∈ calls,
    call.recorder.remoteParent ≠ some other.span.spanId.bytes

/-- A span that asks for a parent has one recorded earlier. -/
lemma Acceptance.Stamped.exists_earlier (h : call.Stamped) (hknown : call.ParentKnown)
    (hparent : call.request.parent ≠ none) :
    ∃ earlier ∈ call.before.recorded.toList, call.span.parentId = some earlier.spanId := by
  cases hrequest : call.request.parent with
  | none => exact absurd hrequest hparent
  | some parent =>
    cases parent with
    | recorded position =>
      obtain ⟨earlier, hearlier, hid⟩ := h.parent_of_recorded position hrequest
      exact ⟨earlier, List.mem_of_getElem? (by rwa [Array.getElem?_toList]), hid⟩
    | ident bytes =>
      obtain ⟨earlier, hearlier, rfl⟩ := hknown bytes hrequest
      obtain ⟨id, hid, hbytes⟩ := Option.map_eq_some_iff.1 (h.parent_of_ident _ hrequest)
      exact ⟨earlier, hearlier, hid.trans (congrArg some (Ident.bytes_inj.1 hbytes))⟩

section Coherent

variable (hstart : start.recorded = #[]) (hcoherent : Coherent (start.acceptances steps))
include hstart hcoherent

/-- The parent of a span is among those in front of it, if one was asked for, and
else it is that of the recorder, which is among none. -/
lemma parent_of_coherent (h : (start.acceptances steps)[node]? = some call) :
    (call.request.parent ≠ none ∧ ∃ id, call.span.parentId = some id ∧
      id ∈ (((start.acceptances steps).map (·.span)).take node).map (·.spanId)) ∨
    (call.request.parent = none ∧ call.span.parentId.map (·.bytes) = call.recorder.remoteParent ∧
      ∀ id, call.span.parentId = some id →
        id ∉ ((start.acceptances steps).map (·.span)).map (·.spanId)) := by
  have hmem : call ∈ start.acceptances steps := List.mem_of_getElem? h
  have hstamped := (stamped_of_mem_acceptances hmem).1
  by_cases hparent : call.request.parent = none
  · have hremote := hstamped.parent_of_none hparent
    refine .inr ⟨hparent, hremote, fun id hid hids => ?_⟩
    rw [List.map_map, List.mem_map] at hids
    obtain ⟨other, hother, rfl⟩ := hids
    rw [hid] at hremote
    exact hcoherent.remote_ne call hmem other hother hremote.symm
  · obtain ⟨earlier, hearlier, hid⟩ :=
      hstamped.exists_earlier (hcoherent.parentKnown call hmem) hparent
    refine .inl ⟨hparent, earlier.spanId, hid, ?_⟩
    rw [recorded_before h, hstart, List.nil_append, List.map_take] at hearlier
    exact List.mem_map_of_mem hearlier

/-- Parents come before their children. -/
lemma parentsFirst_of_coherent : Graph.ParentsFirst ((start.acceptances steps).map (·.span)) := by
  intro node span id hspan hid
  rw [List.getElem?_map, Option.map_eq_some_iff] at hspan
  obtain ⟨call, hcall, rfl⟩ := hspan
  rcases parent_of_coherent hstart hcoherent hcall with ⟨-, id', hid', hmem⟩ | ⟨-, -, hnone⟩
  · obtain rfl := Option.some.inj (hid.symm.trans hid')
    exact .inl hmem
  · exact .inr (hnone id hid)

/-- The roots are the spans without a parent of a recorder that has none. -/
lemma mem_roots_of_coherent :
    node ∈ (Graph.build ((start.acceptances steps).map (·.span))).roots ↔
      ∃ call, (start.acceptances steps)[node]? = some call ∧
        call.request.parent = none ∧ call.recorder.remoteParent = none := by
  rw [Graph.mem_roots_build_iff]
  simp only [List.getElem?_map, Option.map_eq_some_iff]
  constructor
  · rintro ⟨span, ⟨call, hcall, rfl⟩, hnone⟩
    rcases parent_of_coherent hstart hcoherent hcall with ⟨-, id, hid, -⟩ | ⟨hparent, hremote, -⟩
    · cases hnone.symm.trans hid
    · rw [hnone] at hremote
      exact ⟨call, hcall, hparent, hremote.symm⟩
  · rintro ⟨call, hcall, hparent, hremote⟩
    have hid := (stamped_of_mem_acceptances (List.mem_of_getElem? hcall)).1.parent_of_none hparent
    rw [hremote, Option.map_eq_none_iff] at hid
    exact ⟨call.span, ⟨call, hcall, rfl⟩, hid⟩

/-- The orphans are the spans without a parent of a recorder that has one. -/
lemma mem_orphans_of_coherent :
    node ∈ (Graph.build ((start.acceptances steps).map (·.span))).orphans ↔
      ∃ call, (start.acceptances steps)[node]? = some call ∧
        call.request.parent = none ∧ call.recorder.remoteParent ≠ none := by
  rw [Graph.mem_orphans_build_iff]
  simp only [List.getElem?_map, Option.map_eq_some_iff]
  constructor
  · rintro ⟨span, id, ⟨call, hcall, rfl⟩, hid, hnotMem⟩
    rcases parent_of_coherent hstart hcoherent hcall with
      ⟨-, id', hid', hmem⟩ | ⟨hparent, hremote, -⟩
    · obtain rfl := Option.some.inj (hid.symm.trans hid')
      rw [List.map_take] at hmem
      exact absurd (List.mem_of_mem_take hmem) hnotMem
    · rw [hid] at hremote
      exact ⟨call, hcall, hparent, by simp [← hremote]⟩
  · rintro ⟨call, hcall, hparent, hremote⟩
    rcases parent_of_coherent hstart hcoherent hcall with ⟨hsome, -⟩ | ⟨-, hbytes, hnone⟩
    · exact absurd hparent hsome
    · cases hid : call.span.parentId with
      | none =>
        rw [hid] at hbytes
        exact absurd hbytes.symm hremote
      | some id => exact ⟨call.span, id, ⟨call, hcall, rfl⟩, hid, hnone id hid⟩

end Coherent

/-- **A session stamps its spans in the order of their clocks.** Whatever its
steps, from where nothing has been recorded,

* each call that is made, with its span accepted or rejected, advances the clock
  by one;
* the spans that are accepted are those that are recorded; each carries the clock
  from just before its call, the trace of its recorder and the parent that was
  asked for, or else that of the recorder; and their clocks ascend.

If these spans are coherent, they have a graph. Its edges all lead to later nodes
with later clocks, so that it is acyclic, and its roots and orphans are the
spans recorded without a parent: roots if the recorder had none either, orphans
if it had one from elsewhere. -/
theorem recording_orders_spans (hstart : start.recorded = #[]) (steps : List Step) :
    (∀ past request future, steps = past ++ .record request :: future →
      ((start.run past).IsMade request ↔ IsChecked ((start.run past).record request).1) ∧
      (IsChecked ((start.run past).record request).1 →
        ((start.run past).record request).2.clock.now = (start.run past).clock.now + 1)) ∧
    (start.run steps).recorded.toList = (start.acceptances steps).map (·.span) ∧
    (∀ call ∈ start.acceptances steps, call.Stamped) ∧
    ((start.run steps).recorded.toList.Pairwise fun a b => a.clock < b.clock) ∧
    (Coherent (start.acceptances steps) →
      ∃ g, Graph.ofSpans (start.run steps).recorded.toList = .ok g ∧
        (∀ parent child, g.Edge parent child → parent < child ∧
          ∃ above below, g.spans[parent]? = some above ∧ g.spans[child]? = some below ∧
            above.clock < below.clock) ∧
        g.isAcyclic = true ∧
        (∀ node, node ∈ g.roots ↔ ∃ call, (start.acceptances steps)[node]? = some call ∧
          call.request.parent = none ∧ call.recorder.remoteParent = none) ∧
        ∀ node, node ∈ g.orphans ↔ ∃ call, (start.acceptances steps)[node]? = some call ∧
          call.request.parent = none ∧ call.recorder.remoteParent ≠ none) := by
  have hrecorded : (start.run steps).recorded.toList = (start.acceptances steps).map (·.span) := by
    rw [recorded_run, hstart, List.nil_append]
  have hclocks : ((start.acceptances steps).map (·.span)).Pairwise fun a b => a.clock < b.clock :=
    List.pairwise_map.2 (pairwise_clock start steps)
  rw [hrecorded]
  have hcall := fun past => (start.run past).record_spec
  refine ⟨fun past request _ _ => ⟨(hcall past request).isMade_iff, fun h =>
      (hcall past request).now_of_isMade ((hcall past request).isMade_iff.2 h)⟩,
    rfl, fun call hcall => (stamped_of_mem_acceptances hcall).1, hclocks, fun hcoherent => ?_⟩
  have hfirst := parentsFirst_of_coherent hstart hcoherent
  refine ⟨_, Graph.ofSpans_of_oneTrace hcoherent.oneTrace, fun parent child hedge => ?_,
    hfirst.isAcyclic_build hcoherent.distinct, fun node => mem_roots_of_coherent hstart hcoherent,
    fun node => mem_orphans_of_coherent hstart hcoherent⟩
  have hlt := hfirst.lt_of_edge hcoherent.distinct hedge
  have hchild := (Graph.linked_build _).child_lt hedge
  rw [Graph.size_build] at hchild
  have hparent := Nat.lt_trans hlt hchild
  simp only [Graph.spans_build, List.getElem?_toArray]
  exact ⟨hlt, _, _, List.getElem?_eq_getElem hparent, List.getElem?_eq_getElem hchild,
    List.pairwise_iff_getElem.1 hclocks parent child hparent hchild hlt⟩

/-- A recorder that starts a trace. -/
def caller : Recorder where
  traceId := (Ident.ofNat 16 7).bytes
  process := 1

/-- A recorder of another process that joins the trace. -/
def joined : Recorder where
  traceId := (Ident.ofNat 16 7).bytes
  process := 2
  remoteParent := some (Ident.ofNat 8 99).bytes

/-- The request for a span with some bytes for its identifier. -/
def requestOf (spanId : List UInt8) (parent : Option ParentRef) : SpanRequest :=
  { name := "work", startTime := 0, endTime := 1, parent, spanId := some spanId }

/-- A session of both recorders, in which one span is rejected. -/
def sharedSteps : List Step :=
  [.switch caller, .record (requestOf (Ident.ofNat 8 1).bytes none), .tick,
   .record (requestOf [1, 2, 3] none), .sync 10, .switch joined,
   .record (requestOf (Ident.ofNat 8 2).bytes none),
   .record (requestOf (Ident.ofNat 8 3).bytes (some (.recorded 0))), .switch caller,
   .record (requestOf (Ident.ofNat 8 4).bytes (some (.ident (Ident.ofNat 8 2).bytes)))]

/-- The session before it starts. -/
def opened : Session where
  clock := ⟨0⟩

/-- The spans of the session are stamped around the one that was rejected, and
have a graph with one root and one orphan. -/
theorem shared_session_recorded :
    opened.recorded = #[] ∧ Coherent (opened.acceptances sharedSteps) ∧
      (opened.run sharedSteps).recorded.toList.map (·.clock) = [0, 11, 12, 13] ∧
      ∃ g, Graph.ofSpans (opened.run sharedSteps).recorded.toList = .ok g ∧
        g.isAcyclic = true ∧ 0 ∈ g.roots ∧ 1 ∈ g.orphans := by
  have hcoherent : Coherent (opened.acceptances sharedSteps) := by
    refine ⟨⟨.ofNat 16 7, by decide⟩, by decide, fun call hcall bytes hbytes => ?_, by decide⟩
    have hparents : ∀ call ∈ opened.acceptances sharedSteps, call.request.parent = none ∨
        call.request.parent = some (.recorded 0) ∨
        call.request.parent = some (.ident (Ident.ofNat 8 2).bytes) ∧
          ∃ earlier ∈ call.before.recorded.toList,
            (Ident.ofNat 8 2).bytes = earlier.spanId.bytes := by
      decide
    rcases hparents call hcall with hnone | hrecorded | ⟨hident, hearlier⟩
    · cases hnone.symm.trans hbytes
    · cases hrecorded.symm.trans hbytes
    · obtain rfl := ParentRef.ident.inj (Option.some.inj (hident.symm.trans hbytes))
      exact hearlier
  obtain ⟨-, hspans, -, -, hgraph⟩ := recording_orders_spans (show opened.recorded = #[] from rfl)
    sharedSteps
  obtain ⟨g, hg, -, hacyclic, hroots, horphans⟩ := hgraph hcoherent
  refine ⟨rfl, hcoherent, ?_, g, hg, hacyclic, (hroots 0).2 ⟨_, rfl, rfl, rfl⟩,
    (horphans 1).2 ⟨_, rfl, rfl, by decide⟩⟩
  rw [hspans]
  decide

end Session
end CausalTrace
