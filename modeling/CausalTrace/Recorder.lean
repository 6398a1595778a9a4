/-
Recording spans: a session keeps one logical clock, the recorder in use,
the spans recorded so far and the random bytes still to be drawn.

* `Recorder`: the trace that new spans belong to, and their defaults;
* `Session.record`: records a span, stamped with the clock; `Session.stamp`:
  the span, if its attributes have a text and its identifiers the right size;
* `Session.tick`, `Session.sync`: what else moves the clock.
-/
import CausalTrace.Clock.Basic
import CausalTrace.Span
import CausalTrace.TraceHeader

namespace CausalTrace

/-- The trace that new spans belong to and what they carry unless told
otherwise. The sizes of its identifiers are checked span by span. -/
structure Recorder where
  traceId : List UInt8
  process : Int := 0
  thread : Int := 0
  remoteParent : Option (List UInt8) := none
deriving DecidableEq

/-- A recorder that joins the trace of a caller. -/
def Recorder.ofHeader (header : TraceHeader) (process thread : Int) : Recorder :=
  { traceId := header.traceId.bytes, process, thread,
    remoteParent := some header.parentId.bytes }

/-- The parent of a span to record: a span recorded earlier, by its
position, or any identifier. -/
inductive ParentRef where
  | recorded (position : Nat)
  | ident (bytes : List UInt8)
deriving DecidableEq

/-- A span to record. What is missing is taken from the recorder, and a
missing identifier is drawn. -/
structure SpanRequest where
  name : String
  startTime : Int
  endTime : Int
  parent : Option ParentRef := none
  attributes : List (String × Attribute) := []
  status : SpanStatus := .ok
  message : String := ""
  kind : SpanKind := .internal
  process : Option Int := none
  thread : Option Int := none
  spanId : Option (List UInt8) := none

/-- Why nothing was recorded. -/
inductive SessionError where
  | noRecorder
  | noSuchSpan
  | noRandomBytes
  | span (error : SpanError)
deriving DecidableEq, Repr

/-- The message of a session error. -/
def SessionError.message : SessionError → String
  | noRecorder => "no recorder in use"
  | noSuchSpan => "list index out of range"
  | noRandomBytes => "no random bytes left"
  | span error => error.message

/-- One logical clock, the recorder in use, the spans recorded so far in
order, and the random bytes still to be drawn. -/
structure Session where
  clock : LamportClock
  recorder : Option Recorder := none
  recorded : Array Span := #[]
  random : List (List UInt8) := []

namespace Session

/-- Draws the next bytes that are not all zero. -/
def draw : List (List UInt8) → Option (List UInt8 × List (List UInt8))
  | [] => none
  | bytes :: rest => if allZero bytes then draw rest else some (bytes, rest)

/-- The given bytes, or else drawn ones. -/
def givenOrDrawn (given : Option (List UInt8)) (random : List (List UInt8)) :
    Option (List UInt8 × List (List UInt8)) :=
  match given with
  | some bytes => some (bytes, random)
  | none => draw random

/-- Uses a recorder for a trace, which is drawn if it is not given. -/
def attach (session : Session) (traceId : Option (List UInt8)) (process thread : Int)
    (remoteParent : Option (List UInt8)) : Except SessionError Recorder × Session :=
  match givenOrDrawn traceId session.random with
  | none => (.error .noRandomBytes, { session with random := [] })
  | some (traceId, random) =>
    let recorder := { traceId, process, thread, remoteParent }
    (.ok recorder, { session with recorder := some recorder, random })

/-- Uses a recorder that joins the trace a header announces. A header
with a fault leaves the recorder in use as it was. -/
def join (session : Session) (header : String) (process thread : Int) :
    Except HeaderError Recorder × Session :=
  match TraceHeader.parse header with
  | .error fault => (.error fault, session)
  | .ok header =>
    let recorder := Recorder.ofHeader header process thread
    (.ok recorder, { session with recorder := some recorder })

/-- The bytes of the parent of a span to record. -/
def parentBytes (session : Session) (recorder : Recorder) :
    Option ParentRef → Except SessionError (Option (List UInt8))
  | none => .ok recorder.remoteParent
  | some (.ident bytes) => .ok (some bytes)
  | some (.recorded position) =>
    match session.recorded[position]? with
    | some span => .ok (some span.spanId.bytes)
    | none => .error .noSuchSpan

/-- The span that a request asks for, stamped with a clock value. Its attributes
are written before its identifiers are looked at. -/
def stamp (recorder : Recorder) (request : SpanRequest) (spanId : List UInt8)
    (parent : Option (List UInt8)) (clock : Nat) : Except SpanError Span :=
  match Attribute.writeMap? request.attributes with
  | none => .error .unwritable
  | some attributes =>
    Span.create recorder.traceId spanId parent
      { name := request.name
        startTime := request.startTime
        endTime := request.endTime
        clock
        process := request.process.getD recorder.process
        thread := request.thread.getD recorder.thread
        kind := request.kind
        status := request.status
        message := request.message
        attributes }

/-- Records a span. Its identifier is drawn and the clock advances before
the span is checked, so a span that is refused has used both. -/
def record (session : Session) (request : SpanRequest) : Except SessionError Span × Session :=
  match session.recorder with
  | none => (.error .noRecorder, session)
  | some recorder =>
    match session.parentBytes recorder request.parent with
    | .error error => (.error error, session)
    | .ok parent =>
      match givenOrDrawn request.spanId session.random with
      | none => (.error .noRandomBytes, { session with random := [] })
      | some (spanId, random) =>
        let (now, clock) := session.clock.tick
        let session := { session with clock, random }
        match stamp recorder request spanId parent now with
        | .ok span => (.ok span, { session with recorded := session.recorded.push span })
        | .error error => (.error (.span error), session)

/-- Advances the clock without recording. -/
def tick (session : Session) : Nat × Session :=
  let (now, clock) := session.clock.tick
  (now, { session with clock })

/-- Takes a clock value received from elsewhere. -/
def sync (session : Session) (remote : Int) : Session :=
  { session with clock := session.clock.sync remote }

end Session
end CausalTrace
