/-
The header by which a caller announces its trace: version, trace, parent
span and flags in hexadecimal, separated by hyphens.

* `TraceHeader.parse`: the header that a text writes, or the first fault;
* `TraceHeader.write`: the header as text, in lower case;
* `TraceHeader.fromEnvironment`: the header found in the first variable
  that is set.
-/
import CausalTrace.Environment
import CausalTrace.Ident
import CausalTrace.Text.Blank

namespace CausalTrace

/-- A trace that is announced by a caller. -/
structure TraceHeader where
  traceId : TraceId
  parentId : SpanId
  flags : UInt8
deriving DecidableEq

/-- The faults of a header. A newline at the end of a field passes the
check of its characters and is found only when its digits are paired. -/
inductive HeaderError where
  | badShape
  | badVersion
  | badTraceId
  | zeroTraceId
  | badParentId
  | zeroParentId
  | badFlags
  | strayNewline (position : Nat)
deriving DecidableEq, Repr

/-- The message of a header fault. -/
def HeaderError.message : HeaderError → String
  | badShape => "Invalid traceparent format (expected: version-trace_id-parent_id-flags)"
  | badVersion => "Invalid version (must be 00)"
  | badTraceId => "Invalid trace_id (must be 32 hex characters)"
  | zeroTraceId => "Trace ID cannot be all zeros"
  | badParentId => "Invalid parent_id (must be 16 hex characters)"
  | zeroParentId => "Parent ID cannot be all zeros"
  | badFlags => "Invalid trace_flags (must be 2 hex characters)"
  | strayNewline position =>
    "non-hexadecimal number found in fromhex() arg at position " ++ toString position

namespace TraceHeader

/-- The only version of the header. -/
def version : Nat := 0

/-- Whether a field consists of hexadecimal digits, with or without a
newline at its end. -/
def isHexField (field : List Char) : Bool :=
  let digits := if field.getLast? = some '\n' then field.dropLast else field
  !digits.isEmpty && digits.all fun c => (hexDigit? c).isSome

/-- The bytes of a field that has two digits for each of them. -/
def hexField (size : Nat) (fault : HeaderError) (field : List Char) :
    Except HeaderError (Ident size) :=
  if field.length ≠ 2 * size || !isHexField field then .error fault
  else
    match (bytesOfHex? field).bind (Ident.ofBytes? size) with
    | some id => .ok id
    | none => .error (.strayNewline (field.length - 1))

/-- The header that a text writes. Blanks at its ends are dropped. -/
def parse (text : String) : Except HeaderError TraceHeader :=
  match (trim text.toList).splitOn '-' with
  | [version, trace, parent, flags] => do
    let version ← hexField 1 .badVersion version
    if !allZero version.bytes then throw .badVersion
    let traceId ← hexField 16 .badTraceId trace
    if allZero traceId.bytes then throw .zeroTraceId
    let parentId ← hexField 8 .badParentId parent
    if allZero parentId.bytes then throw .zeroParentId
    let flags ← hexField 1 .badFlags flags
    return { traceId, parentId, flags := flags.bytes.headD 0 }
  | _ => .error .badShape

/-- Whether the caller records the trace. -/
def isSampled (header : TraceHeader) : Bool :=
  header.flags.toNat % 2 = 1

/-- The header as characters. -/
def chars (header : TraceHeader) : List Char :=
  ['0', '0', '-'] ++ hexBytes header.traceId.bytes ++ '-' :: hexBytes header.parentId.bytes ++
    '-' :: hexBytes [header.flags]

/-- The header as text. -/
def write (header : TraceHeader) : String :=
  String.ofList header.chars

/-- The header found in the first of some variables that is set. A header
with a fault counts as none, but a stray newline is reported. -/
def fromEnvironment (names : List String) (env : Environment) :
    Except HeaderError (Option TraceHeader) :=
  match names.findSome? env.get? with
  | none => .ok none
  | some text =>
    match parse text with
    | .ok header => .ok (some header)
    | .error (.strayNewline position) => .error (.strayNewline position)
    | .error _ => .ok none

end TraceHeader
end CausalTrace
