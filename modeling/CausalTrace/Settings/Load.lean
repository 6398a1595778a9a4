/-
Settings read from environment variables.

* `SettingField`: how a setting is read and written, by what kind of
  value it has;
* `Settings.fields`: all settings by name;
* `Settings.load`: the settings that an environment asks for, or the
  reason why it cannot be used.
-/
import CausalTrace.Attribute.Text
import CausalTrace.Environment
import CausalTrace.Field
import CausalTrace.Settings.Basic
import CausalTrace.Text.Quoted

namespace CausalTrace

/-- A setting, by the kind of value it has: how it is read and how it is
replaced. -/
inductive SettingField where
  | text (get : Settings → String) (put : String → Settings → Settings)
  | integer (get : Settings → Int) (put : Int → Settings → Settings)
  | float (get : Settings → Binary64) (put : Binary64 → Settings → Settings)
  | texts (get : Settings → List String) (put : List String → Settings → Settings)

namespace Settings

/-- All settings by name. -/
def fields : List (String × SettingField) :=
  [("clock_env_var", .text (·.clockVariable) fun v s => { s with clockVariable := v }),
   ("traceparent_env_vars", .texts (·.headerVariables) fun v s => { s with headerVariables := v }),
   ("pattern_dominant_threshold",
    .float (·.dominant.medium) fun v s => { s with dominant := { s.dominant with medium := v } }),
   ("pattern_dominant_high",
    .float (·.dominant.high) fun v s => { s with dominant := { s.dominant with high := v } }),
   ("pattern_dominant_critical",
    .float (·.dominant.critical) fun v s =>
      { s with dominant := { s.dominant with critical := v } }),
   ("pattern_dominant_min_processes",
    .integer (·.dominantMinProcesses) fun v s => { s with dominantMinProcesses := v }),
   ("pattern_loop_threshold",
    .integer (·.loop.medium) fun v s => { s with loop := { s.loop with medium := v } }),
   ("pattern_loop_high",
    .integer (·.loop.high) fun v s => { s with loop := { s.loop with high := v } }),
   ("pattern_loop_critical",
    .integer (·.loop.critical) fun v s => { s with loop := { s.loop with critical := v } }),
   ("pattern_transfer_threshold",
    .float (·.transfer.medium) fun v s => { s with transfer := { s.transfer with medium := v } }),
   ("pattern_transfer_high",
    .float (·.transfer.high) fun v s => { s with transfer := { s.transfer with high := v } }),
   ("pattern_transfer_critical",
    .float (·.transfer.critical) fun v s =>
      { s with transfer := { s.transfer with critical := v } }),
   ("pattern_transfer_markers",
    .texts (·.transferMarkers) fun v s => { s with transferMarkers := v }),
   ("pattern_compute_markers",
    .texts (·.computeMarkers) fun v s => { s with computeMarkers := v }),
   ("rle_min_run_length", .integer (·.minRunLength) fun v s => { s with minRunLength := v }),
   ("rle_synthetic_tick_ns", .integer (·.syntheticTick) fun v s => { s with syntheticTick := v }),
   ("analyzer_max_parallel_traces",
    .integer (·.maxParallel) fun v s => { s with maxParallel := v }),
   ("analyzer_round_precision", .integer (·.roundPlaces) fun v s => { s with roundPlaces := v })]

end Settings

/-- Why an environment cannot be used. -/
inductive SettingsError where
  | notInteger (text : String) (error : NumeralError)
  | notData (field : String)
  | fields (errors : List FieldError)
deriving DecidableEq

/-- The message of a numeral that was refused; a long text is cut off. -/
def NumeralError.message (text : String) : NumeralError → String
  | malformed =>
    "invalid literal for int() with base 10: " ++
      String.ofList ((quoted text.toList).take 200)
  | tooLong digits =>
    "Exceeds the limit (4300 digits) for integer string conversion: value has " ++
      toString digits ++ " digits; use sys.set_int_max_str_digits() to increase the limit"

/-- The message of a settings error; field errors are listed instead. -/
def SettingsError.message : SettingsError → String
  | notInteger text error => error.message text
  | notData field =>
    "error parsing value for field \"" ++ field ++ "\" from source \"EnvSettingsSource\""
  | fields _ => ""

namespace Settings

/-- What all setting variables start with. -/
def variableStart : String := "tracewise_"

/-- A character in lower case, as far as ASCII letters are the result:
beside the capital letters this is the Kelvin sign. -/
def lowerChar (c : Char) : Char :=
  if c = Char.ofNat 0x212A then 'k' else c.toLower

/-- The text that an environment gives for a setting; of variables whose
names differ in case only the last one counts. -/
def given? (env : Environment) (field : String) : Option String :=
  let wanted := (variableStart ++ field).toList
  (env.entries.reverse.find? fun entry => entry.1.toList.map lowerChar = wanted).map (·.2)

/-- The integer in a variable, or a default if it is not set. -/
def integerOr (env : Environment) (name : String) (default : Int) : Except SettingsError Int :=
  match env.get? name with
  | none => .ok default
  | some text =>
    match readInteger text.toList with
    | .ok value => .ok value
    | .error error => .error (.notInteger text error)

/-- The defaults, as far as an environment changes them. -/
def defaults (env : Environment) : Except SettingsError Settings := do
  let clockVariable := (env.get? "TRACEWISE_CLOCK_ENV_VAR").getD "TRACEWISE_LOGICAL_CLOCK"
  let minRunLength ← integerOr env "TRACEWISE_RLE_MIN_RUN_LENGTH" 10
  let maxParallel ← integerOr env "TRACEWISE_MAX_PARALLEL_TRACES" 4
  return { clockVariable, minRunLength, maxParallel }

/-- A change of the settings. -/
abbrev Change := Settings → Settings

/-- The change that a text asks for, or what is wrong with it. A list is
written as data, and null leaves it as it is. -/
def changeOf (name text : String) :
    SettingField → Except SettingsError (Except (List FieldError) Change)
  | .text _ put => .ok (.ok (put text))
  | .integer _ put => .ok ((integerText name text).map put)
  | .float _ put => .ok ((floatText name text).map put)
  | .texts _ put =>
    match Attribute.read? text.toList with
    | some .null => .ok (.ok id)
    | some value => .ok ((readTexts name value).map put)
    | none => .error (.notData name)

/-- The changes that an environment asks for. -/
def changes (env : Environment) :
    List (String × SettingField) →
      Except SettingsError (List (Except (List FieldError) Change))
  | [] => .ok []
  | (name, field) :: rest =>
    match given? env name with
    | none => changes env rest
    | some text => do
      let change ← changeOf name text field
      let others ← changes env rest
      return change :: others

/-- The settings that an environment asks for. Lists that are not written
as data are found first, then the errors of all settings together. -/
def load (env : Environment) : Except SettingsError Settings := do
  let start ← defaults env
  let changes ← changes env fields
  let errors := changes.flatMap fun change => match change with
    | .ok _ => []
    | .error errors => errors
  if errors.isEmpty then
    return changes.foldl (fun settings change => match change with
      | .ok change => change settings
      | .error _ => settings) start
  else throw (.fields (sortFieldErrors errors))

end Settings
end CausalTrace
