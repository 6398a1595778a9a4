/-
One step of a session.

* `stamp_spec`: what a span carries that could be stamped;
* `Recorded`: what a call to record a span can come to; `record_spec`: **a call
  takes one value of the clock if it is made**, whether its span is accepted or
  rejected, and none otherwise;
* `Acceptance.Stamped`: a span that carries the clock, the trace and the parent
  it should; `Recorded.stamped`: every accepted span does;
* `Step`, `step`: recorders come and go, spans are recorded, and the clock
  ticks or takes values from elsewhere;
* `now_le_step`, `recorded_step`, `stamped_of_accepted?`: no step takes the clock
  back, and each adds the span that it accepts and no other.
-/
import CausalTrace.Recorder
import Mathlib.Tactic.Lemma

namespace CausalTrace
namespace Session

variable {session : Session} {request : SpanRequest}

/-! ### One span -/

/-- A span that is stamped has a text for its attributes, and it carries the trace,
the parent and the clock that were given. -/
lemma stamp_spec {recorder : Recorder} {spanId : List UInt8} {parent : Option (List UInt8)}
    {clock : Nat} {span : Span} (h : stamp recorder request spanId parent clock = .ok span) :
    Attribute.writeMap? request.attributes = some span.attributes ∧
      recorder.traceId = span.traceId.bytes ∧ parent = span.parentId.map (·.bytes) ∧
      span.clock = clock := by
  rw [stamp] at h
  split at h
  · cases h
  · rename_i attributes hattributes
    obtain ⟨htrace, -, hparent, hfields⟩ := Span.create_eq_ok_iff.1 h
    rw [hfields]
    exact ⟨hattributes, htrace, hparent, rfl⟩

/-! ### One call -/

/-- The call can be made: a recorder is in use, the parent is known, and an
identifier is given or can be drawn. -/
def IsMade (session : Session) (request : SpanRequest) : Prop :=
  ∃ recorder parent drawn, session.recorder = some recorder ∧
    session.parentBytes recorder request.parent = .ok parent ∧
    givenOrDrawn request.spanId session.random = some drawn

/-- The span was accepted, or it was rejected for the size of an identifier or
for attributes that have no text. -/
def IsChecked (outcome : Except SessionError Span) : Prop :=
  (∃ span, outcome = .ok span) ∨ ∃ error, outcome = .error (.span error)

/-- What a call can come to: the outcome, and the session after it. -/
inductive Recorded (session : Session) (request : SpanRequest) :
    Except SessionError Span × Session → Prop where
  | accepted {recorder : Recorder} {parent : Option (List UInt8)} {spanId : List UInt8}
      {random : List (List UInt8)} {span : Span}
      (hrecorder : session.recorder = some recorder)
      (hparent : session.parentBytes recorder request.parent = .ok parent)
      (hdrawn : givenOrDrawn request.spanId session.random = some (spanId, random))
      (hspan : stamp recorder request spanId parent session.clock.now = .ok span) :
      Recorded session request (.ok span, { session with
        clock := session.clock.tick.2, random, recorded := session.recorded.push span })
  | rejected {recorder : Recorder} {parent : Option (List UInt8)} {spanId : List UInt8}
      {random : List (List UInt8)} {error : SpanError}
      (hrecorder : session.recorder = some recorder)
      (hparent : session.parentBytes recorder request.parent = .ok parent)
      (hdrawn : givenOrDrawn request.spanId session.random = some (spanId, random))
      (hspan : stamp recorder request spanId parent session.clock.now = .error error) :
      Recorded session request
        (.error (.span error), { session with clock := session.clock.tick.2, random })
  | notMade {random : List (List UInt8)} {error : SessionError}
      (hmade : ¬ session.IsMade request) (herror : ∀ e, error ≠ .span e) :
      Recorded session request (.error error, { session with random })

/-- An unknown parent is no fault of the span itself. -/
lemma ne_span_of_parentBytes_eq_error {recorder : Recorder} {parent : Option ParentRef}
    {error : SessionError} (h : session.parentBytes recorder parent = .error error)
    (e : SpanError) : error ≠ .span e := by
  rintro rfl
  unfold parentBytes at h
  split at h
  · cases h
  · cases h
  · split at h <;> cases h

/-- **A call does one of the three.** -/
lemma record_spec (session : Session) (request : SpanRequest) :
    Recorded session request (session.record request) := by
  rw [record]
  split
  · rename_i hrecorder
    refine .notMade ?_ (by simp)
    rintro ⟨recorder, -, -, h, -⟩
    cases hrecorder.symm.trans h
  · rename_i recorder hrecorder
    split
    · rename_i error hparent
      refine .notMade ?_ (ne_span_of_parentBytes_eq_error hparent)
      rintro ⟨recorder', parent, -, h, h', -⟩
      obtain rfl := Option.some.inj (hrecorder.symm.trans h)
      cases hparent.symm.trans h'
    · rename_i parent hparent
      split
      · rename_i hdrawn
        refine .notMade ?_ (by simp)
        rintro ⟨-, -, drawn, -, -, h⟩
        cases hdrawn.symm.trans h
      · rename_i spanId random hdrawn
        simp only
        split
        · rename_i span hspan
          exact .accepted hrecorder hparent hdrawn hspan
        · rename_i error hspan
          exact .rejected hrecorder hparent hdrawn hspan

/-- A span that was accepted, with the call that it comes from. -/
structure Acceptance where
  before : Session
  recorder : Recorder
  request : SpanRequest
  span : Span

/-- The span that a call adds. -/
def acceptance? (session : Session) (request : SpanRequest) :
    Except SessionError Span → Option Acceptance
  | .ok span => session.recorder.map fun recorder => ⟨session, recorder, request, span⟩
  | .error _ => none

/-- The span carries the clock from just before the call, the trace of its
recorder and the parent that is asked for, or else that of its recorder. -/
structure Acceptance.Stamped (call : Acceptance) : Prop where
  recorder_eq : call.before.recorder = some call.recorder
  clock_eq : call.span.clock = call.before.clock.now
  trace_eq : call.span.traceId.bytes = call.recorder.traceId
  parent_of_none : call.request.parent = none →
    call.span.parentId.map (·.bytes) = call.recorder.remoteParent
  parent_of_ident : ∀ bytes, call.request.parent = some (.ident bytes) →
    call.span.parentId.map (·.bytes) = some bytes
  parent_of_recorded : ∀ position, call.request.parent = some (.recorded position) →
    ∃ earlier, call.before.recorded[position]? = some earlier ∧
      call.span.parentId = some earlier.spanId

/-- The parent of an accepted span is the one that was asked for. -/
lemma parent_of_parentBytes {recorder : Recorder} {parent : Option ParentRef}
    {id : Option SpanId} (h : session.parentBytes recorder parent = .ok (id.map (·.bytes))) :
    (parent = none → id.map (·.bytes) = recorder.remoteParent) ∧
      (∀ bytes, parent = some (.ident bytes) → id.map (·.bytes) = some bytes) ∧
      ∀ position, parent = some (.recorded position) →
        ∃ earlier, session.recorded[position]? = some earlier ∧ id = some earlier.spanId := by
  refine ⟨?_, ?_, ?_⟩
  · rintro rfl
    exact (Except.ok.inj h).symm
  · rintro bytes rfl
    exact (Except.ok.inj h).symm
  · rintro position rfl
    rw [parentBytes] at h
    split at h
    · rename_i earlier hearlier
      obtain ⟨id, rfl, hbytes⟩ := Option.map_eq_some_iff.1 (Except.ok.inj h).symm
      exact ⟨earlier, hearlier, congrArg some (Ident.bytes_inj.1 hbytes)⟩
    · cases h

namespace Recorded

variable {result : Except SessionError Span × Session} {call : Acceptance}

/-- A call is made exactly if its span is checked. -/
lemma isMade_iff (h : Recorded session request result) :
    session.IsMade request ↔ IsChecked result.1 := by
  cases h with
  | accepted hrecorder hparent hdrawn =>
    exact iff_of_true ⟨_, _, _, hrecorder, hparent, hdrawn⟩ (.inl ⟨_, rfl⟩)
  | rejected hrecorder hparent hdrawn =>
    exact iff_of_true ⟨_, _, _, hrecorder, hparent, hdrawn⟩ (.inr ⟨_, rfl⟩)
  | notMade hmade herror =>
    refine iff_of_false hmade ?_
    rintro (⟨span, h⟩ | ⟨error, h⟩)
    · cases h
    · exact herror error (Except.error.inj h)

/-- A call that is made advances the clock by one. -/
lemma now_of_isMade (h : Recorded session request result) (hmade : session.IsMade request) :
    result.2.clock.now = session.clock.now + 1 := by
  cases h with
  | accepted | rejected => rfl
  | notMade hnot => exact absurd hmade hnot

/-- No call takes the clock back. -/
lemma now_le (h : Recorded session request result) :
    session.clock.now ≤ result.2.clock.now := by
  cases h with
  | accepted | rejected => exact Nat.le_succ _
  | notMade => exact Nat.le_refl _

/-- A call adds the span that it accepts, and no other. -/
lemma recorded_eq (h : Recorded session request result) :
    result.2.recorded.toList =
      session.recorded.toList ++ (session.acceptance? request result.1).toList.map (·.span) := by
  cases h with
  | accepted hrecorder => simp [acceptance?, hrecorder]
  | rejected | notMade => simp [acceptance?]

/-- **An accepted span is stamped as it should be**, and the clock is beyond its
value. -/
lemma stamped (h : Recorded session request result)
    (hcall : session.acceptance? request result.1 = some call) :
    call.before = session ∧ call.Stamped ∧ call.span.clock < result.2.clock.now := by
  cases h with
  | rejected | notMade => cases hcall
  | @accepted recorder parent spanId random span hrecorder hparent hdrawn hspan =>
    rw [acceptance?, hrecorder] at hcall
    obtain rfl := Option.some.inj hcall
    obtain ⟨-, htrace, rfl, hclock⟩ := stamp_spec hspan
    obtain ⟨hnone, hident, hrecorded⟩ := parent_of_parentBytes hparent
    refine ⟨rfl, ⟨hrecorder, hclock, htrace.symm, hnone, hident, hrecorded⟩, ?_⟩
    rw [hclock]
    exact Int.ofNat_lt.2 (Nat.lt_succ_self _)

end Recorded

/-! ### One step -/

/-- A step of a session: a new recorder, which joins the trace of a caller or
not, or one that was in use before; a span to record; and what else happens to
the clock. -/
inductive Step where
  | attach (traceId : Option (List UInt8)) (process thread : Int)
      (remoteParent : Option (List UInt8))
  | join (header : String) (process thread : Int)
  | switch (recorder : Recorder)
  | record (request : SpanRequest)
  | tick
  | sync (remote : Int)

/-- The session after a step. -/
def step (session : Session) : Step → Session
  | .attach traceId process thread remoteParent =>
    (session.attach traceId process thread remoteParent).2
  | .join header process thread => (session.join header process thread).2
  | .switch recorder => { session with recorder := some recorder }
  | .record request => (session.record request).2
  | .tick => session.tick.2
  | .sync remote => session.sync remote

/-- The span that a step adds. -/
def accepted? (session : Session) : Step → Option Acceptance
  | .record request => session.acceptance? request (session.record request).1
  | _ => none

variable {action : Step} {call : Acceptance}

/-- No step takes the clock back. -/
lemma now_le_step (session : Session) (action : Step) :
    session.clock.now ≤ (session.step action).clock.now := by
  cases action with
  | attach traceId process thread remoteParent =>
    rw [step, attach]
    split <;> exact Nat.le_refl _
  | join header process thread =>
    rw [step, join]
    split <;> exact Nat.le_refl _
  | switch recorder => exact Nat.le_refl _
  | record request => exact (record_spec session request).now_le
  | tick => exact Nat.le_succ _
  | sync remote => exact Nat.le_of_lt (session.clock.lt_sync remote).1

/-- A step adds the span that it accepts, and no other. -/
lemma recorded_step (session : Session) (action : Step) :
    (session.step action).recorded.toList =
      session.recorded.toList ++ (session.accepted? action).toList.map (·.span) := by
  cases action with
  | attach traceId process thread remoteParent =>
    rw [step, attach]
    split <;> simp [accepted?]
  | join header process thread =>
    rw [step, join]
    split <;> simp [accepted?]
  | record request => exact (record_spec session request).recorded_eq
  | switch | tick | sync => simp [step, accepted?, Session.tick, Session.sync]

/-- The span that a step accepts is stamped as it should be. -/
lemma stamped_of_accepted? (h : session.accepted? action = some call) :
    call.before = session ∧ call.Stamped ∧
      call.span.clock < (session.step action).clock.now := by
  cases action with
  | record request => exact (record_spec session request).stamped h
  | _ => cases h

end Session
end CausalTrace
