/-
Spans: single timed operations of a trace.

* `Span.create`: a span from bytes for its identifiers, or the first of
  them that has the wrong size;
* `Span.duration`: the time between start and end, never negative;
* `Span.create_eq_ok_iff`: a span is created exactly when all sizes are
  right.
-/
import CausalTrace.Attribute.Text
import CausalTrace.Ident
import CausalTrace.Label

namespace CausalTrace

/-- What a span says beside its identifiers. The attributes of the
operation and of its resource are kept as text, so that equal text means
equal attributes. -/
structure SpanFields where
  name : String
  startTime : Int
  endTime : Int
  clock : Int
  process : Int
  thread : Int
  kind : SpanKind := .internal
  status : SpanStatus := .unset
  message : String := ""
  attributes : String := "\x7b\x7d"
  resource : String := "\x7b\x7d"
deriving DecidableEq

/-- A timed operation: its trace, its own identifier, that of the
operation it is part of, and what it says. -/
structure Span extends SpanFields where
  traceId : TraceId
  spanId : SpanId
  parentId : Option SpanId
deriving DecidableEq

/-- Why there is no span: an identifier has the wrong size, or the attributes
have no text. -/
inductive SpanError where
  | traceIdSize (got : Nat)
  | spanIdSize (got : Nat)
  | parentIdSize (got : Nat)
  | unwritable
deriving DecidableEq, Repr

/-- The message of a span error. -/
def SpanError.message : SpanError → String
  | traceIdSize got => "trace_id must be 16 bytes, got " ++ toString got
  | spanIdSize got => "span_id must be 8 bytes, got " ++ toString got
  | parentIdSize got => "parent_span_id must be 8 bytes, got " ++ toString got
  | unwritable => unwritableMessage

namespace Span

/-- The identifier with the given bytes, or the complaint about their
number. -/
def identOf (size : Nat) (complaint : Nat → SpanError) (bytes : List UInt8) :
    Except SpanError (Ident size) :=
  match Ident.ofBytes? size bytes with
  | some id => .ok id
  | none => .error (complaint bytes.length)

/-- The identifier of a parent, if there is one. -/
def parentOf : Option (List UInt8) → Except SpanError (Option SpanId)
  | none => .ok none
  | some bytes => (identOf 8 .parentIdSize bytes).map some

/-- A span with the given bytes for its identifiers. -/
def create (traceId spanId : List UInt8) (parentId : Option (List UInt8)) (fields : SpanFields) :
    Except SpanError Span := do
  let traceId ← identOf 16 .traceIdSize traceId
  let spanId ← identOf 8 .spanIdSize spanId
  let parentId ← parentOf parentId
  return { fields with traceId, spanId, parentId }

/-- The time between start and end; a span that ends before it starts
takes no time. -/
def duration (span : Span) : Nat :=
  (span.endTime - span.startTime).toNat

/-- The durations of some spans, added up. -/
def timeTogether (spans : List Span) : Nat :=
  spans.foldr (fun span time => span.duration + time) 0

/-- A span that is not part of another. -/
def isRoot (span : Span) : Bool :=
  match span.parentId with
  | none => true
  | some _ => false

/-- A span whose operation failed. -/
def isError (span : Span) : Bool :=
  span.status == .error

/-- The attributes of the operation. -/
def readAttributes (span : Span) : List (String × Attribute) :=
  Attribute.readMap span.attributes

/-- The attributes of the resource. -/
def readResource (span : Span) : List (String × Attribute) :=
  Attribute.readMap span.resource

/-- Bytes become an identifier exactly when their number is right. -/
theorem identOf_eq_ok_iff {size : Nat} {complaint : Nat → SpanError} {bytes : List UInt8}
    {id : Ident size} : identOf size complaint bytes = .ok id ↔ bytes = id.bytes := by
  rw [identOf]
  cases h : Ident.ofBytes? size bytes with
  | some id' =>
    have hbytes := Ident.ofBytes?_eq_some_iff.1 h
    simp only [Except.ok.injEq]
    constructor
    · rintro rfl
      exact hbytes
    · intro heq
      have := Ident.ofBytes?_eq_some_iff.2 heq
      rw [h] at this
      exact Option.some.inj this
  | none =>
    simp only [reduceCtorEq, false_iff]
    intro heq
    have := Ident.ofBytes?_eq_some_iff.2 heq
    rw [h] at this
    simp at this

/-- A parent is accepted exactly when it is absent or of the right
size. -/
theorem parentOf_eq_ok_iff {parent : Option (List UInt8)} {id : Option SpanId} :
    parentOf parent = .ok id ↔ parent = id.map (·.bytes) := by
  cases parent with
  | none => cases id <;> simp [parentOf]
  | some bytes =>
    rw [parentOf]
    cases h : identOf 8 .parentIdSize bytes with
    | ok id' =>
      have hbytes := identOf_eq_ok_iff.1 h
      cases id with
      | none => simp [Except.map]
      | some id'' =>
        simp only [Except.map, Except.ok.injEq, Option.some.injEq, Option.map_some]
        constructor
        · rintro rfl
          exact hbytes
        · intro heq
          have := (@identOf_eq_ok_iff _ .parentIdSize _ _).2 heq
          rw [h] at this
          exact Except.ok.inj this
    | error e =>
      cases id with
      | none => simp [Except.map]
      | some id'' =>
        simp only [Except.map, reduceCtorEq, Option.map_some, Option.some.injEq, false_iff]
        intro heq
        have := (@identOf_eq_ok_iff _ .parentIdSize _ _).2 heq
        rw [h] at this
        simp at this

/-- A span is created exactly when all sizes are right, and it carries
what was given. -/
theorem create_eq_ok_iff {traceId spanId : List UInt8} {parentId : Option (List UInt8)}
    {fields : SpanFields} {span : Span} :
    create traceId spanId parentId fields = .ok span ↔
      traceId = span.traceId.bytes ∧ spanId = span.spanId.bytes ∧
        parentId = span.parentId.map (·.bytes) ∧ span.toSpanFields = fields := by
  constructor
  · intro h
    simp only [create, bind, Except.bind] at h
    split at h
    · simp at h
    · split at h
      · simp at h
      · split at h
        · simp at h
        · rename_i _ t ht _ s hs _ p hp
          simp only [pure, Except.pure, Except.ok.injEq] at h
          subst h
          exact ⟨identOf_eq_ok_iff.1 ht, identOf_eq_ok_iff.1 hs, parentOf_eq_ok_iff.1 hp, rfl⟩
  · rintro ⟨ht, hs, hp, rfl⟩
    have ht' := (@identOf_eq_ok_iff _ .traceIdSize _ _).2 ht
    have hs' := (@identOf_eq_ok_iff _ .spanIdSize _ _).2 hs
    have hp' := parentOf_eq_ok_iff.2 hp
    simp [create, bind, Except.bind, pure, Except.pure, ht', hs', hp']

end Span
end CausalTrace
