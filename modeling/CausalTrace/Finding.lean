/-
Findings: what a detector reports about a trace, and how it is put into
words.

* `Pattern`: the three kinds of patterns with their figures;
* `Finding`: a pattern with its severity;
* `Finding.name`, `Finding.description?`, `Finding.recommendation`: the
  words for a finding;
* `Finding.ofFields`: a finding whose figures are given by name, or the
  errors of all of them.
-/
import CausalTrace.Field
import CausalTrace.Severity

namespace CausalTrace

/-- A pattern found in a trace, with its figures. -/
inductive Pattern where
  | dominantProcess (process : Int) (percentage : Binary64) (duration : Int)
  | tightLoop (operation : String) (repetitions : Int) (duration : Int) (firstNode lastNode : Int)
  | transferBottleneck (transfer compute : Int) (percentage : Binary64)
deriving DecidableEq

/-- A pattern with its severity. -/
structure Finding where
  severity : Severity
  pattern : Pattern
deriving DecidableEq

namespace Finding

/-- The kind of the pattern found. -/
def kind (finding : Finding) : PatternKind :=
  match finding.pattern with
  | .dominantProcess _ _ _ => .dominantProcess
  | .tightLoop _ _ _ _ _ => .tightLoop
  | .transferBottleneck _ _ _ => .transferBottleneck

/-- The title of a finding. -/
def name (finding : Finding) : String :=
  match finding.kind with
  | .dominantProcess => "Dominant Process"
  | .tightLoop => "Tight Loop"
  | .transferBottleneck => "Transfer Bottleneck"

/-- What was found, with its figures, if none of them is too long. -/
def description? (finding : Finding) : Option String := do
  match finding.pattern with
  | .dominantProcess process percentage duration =>
    return "Process " ++ (← writeInteger? process) ++ " dominates critical path (" ++
      percentage.fixed 1 ++ "% of total, " ++ (← writeInteger? duration) ++
      "ns). Consider decomposing or load balancing."
  | .tightLoop operation repetitions duration _ _ =>
    return "Operation '" ++ operation ++ "' repeated " ++ (← writeInteger? repetitions) ++
      " times (total " ++ (← writeInteger? duration) ++
      "ns). Consider batching with vectorized I/O (readv/writev)."
  | .transferBottleneck transfer compute percentage =>
    return "GPU memory transfers (" ++ percentage.fixed 1 ++
      "% of kernel time) saturate the bus: " ++ (← writeInteger? transfer) ++
      "ns transfers vs " ++ (← writeInteger? compute) ++ "ns compute. Consider kernel fusion."

/-- What to do about it. -/
def recommendation (finding : Finding) : String :=
  match finding.kind with
  | .dominantProcess =>
    "Decompose the monolithic process into smaller workers. " ++
      "Use load balancing or sharding to distribute work."
  | .tightLoop =>
    "Use vectorized I/O (readv/writev) to batch syscalls. " ++
      "Consider buffering or async I/O to reduce syscall frequency."
  | .transferBottleneck =>
    "Fuse GPU kernels to reduce transfers. " ++
      "Use persistent kernels or unified memory. " ++ "Minimize host-device data movement."

end Finding

/-! ### Findings from named values -/

namespace Finding

/-- The severity among named values. -/
def severityField (fields : List (String × Attribute)) : Except (List FieldError) Severity :=
  match fields.lookup "severity" with
  | none => .error [⟨"severity", .missing⟩]
  | some (.text name) =>
    match Severity.ofName name with
    | .ok severity => .ok severity
    | .error _ => .error [⟨"severity", .unknownLabel⟩]
  | some _ => .error [⟨"severity", .unknownLabel⟩]

/-- The kind among named values: it may be left out, but it may not be any
other than the given one. -/
def kindField (kind : PatternKind) (fields : List (String × Attribute)) :
    Except (List FieldError) PatternKind :=
  match fields.lookup "kind" with
  | none => .ok kind
  | some (.text name) => if name = kind.name then .ok kind else .error [⟨"kind", .otherLabel⟩]
  | some _ => .error [⟨"kind", .otherLabel⟩]

/-- The first and last node among named values. -/
def nodeRange (fields : List (String × Attribute)) : Except (List FieldError) (Int × Int) :=
  match fields.lookup "node_range" with
  | none => .error [⟨"node_range", .missing⟩]
  | some (.list [a, b]) =>
    pairFields (readInt "node_range.0" (some a)) (readInt "node_range.1" (some b))
  | some (.list [a]) =>
    pairFields (readInt "node_range.0" (some a)) (readInt "node_range.1" none)
  | some (.list []) => pairFields (readInt "node_range.0" none) (readInt "node_range.1" none)
  | some (.list _) => .error [⟨"node_range", .tooLong⟩]
  | some _ => .error [⟨"node_range", .notPair⟩]

/-- The pattern of a kind among named values. -/
def patternFields (kind : PatternKind) (fields : List (String × Attribute)) :
    Except (List FieldError) Pattern :=
  let int (name : String) := readInt name (fields.lookup name)
  let float (name : String) := readFloat name (fields.lookup name)
  match kind with
  | .dominantProcess =>
    (pairFields (int "process_id")
      (pairFields (float "critical_path_percentage") (int "total_duration"))).map
      fun (process, share, duration) => .dominantProcess process share duration
  | .tightLoop =>
    (pairFields (readText "operation_name" (fields.lookup "operation_name"))
      (pairFields (int "repetition_count")
        (pairFields (int "total_duration") (nodeRange fields)))).map
      fun (operation, count, duration, first, last) =>
        .tightLoop operation count duration first last
  | .transferBottleneck =>
    (pairFields (int "transfer_time")
      (pairFields (int "compute_time") (float "transfer_percentage"))).map
      fun (transfer, compute, share) => .transferBottleneck transfer compute share

/-- The finding of a kind whose figures are given by name, or the errors
of all of them. -/
def ofFields (kind : PatternKind) (fields : List (String × Attribute)) :
    Except (List FieldError) Finding :=
  (pairFields (severityField fields)
    (pairFields (kindField kind fields) (patternFields kind fields))).map
    fun (severity, _, pattern) => ⟨severity, pattern⟩

end Finding
end CausalTrace
