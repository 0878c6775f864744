-- SUMMARY: The settings of a lint service, from editor options and the environment.
import LintBridge.Settings.Key
import LintBridge.Settings.Field

/-!
# Settings

Each field takes the value of the last option whose key stands for it. Failing that, it takes the
value of its environment variable, if it has one that is not empty, and failing that its default. A
value that is not taken is not read, so it cannot be wrong.
-/

namespace LintBridge

open Json

/-- Environment variables with their values. -/
abbrev Environment := List (String × String)

/-- How a lint service works. -/
structure Settings where
  /-- The executable that runs the library. -/
  nodePath : String := "node"
  /-- The name of the library's package. -/
  packageName : String := "tslint"
  configFilename : String := "tslint.json"
  /-- The greatest number of directories that a search looks into. -/
  maxAscent : Nat := 256
  /-- The seconds that a lint run may take. -/
  lintTimeout : Option Binary64 := none
  /-- Whether log records are sent to the editor. -/
  trace : Bool := false
  /-- The source that diagnostics name. -/
  source : String := "tslinter"
  deriving DecidableEq, Repr

/-- Why settings cannot be loaded. -/
structure SettingsError where
  report : Report
  deriving Repr

def SettingsError.message (e : SettingsError) : String :=
  "invalid tslinter settings: " ++ e.report.message

namespace Settings

/-- The environment variables that set a field, with the name of the field. -/
def overrides : List (String × String) :=
  [("TSLINTER_NODE", "node_path"), ("TSLINTER_PACKAGE", "package_name"),
    ("TSLINTER_CONFIG_FILE", "config_filename"), ("TSLINTER_LINT_TIMEOUT", "lint_timeout")]

/-- The fields that the environment sets. -/
def fromEnvironment (env : Environment) : List (String × Value) :=
  Table.ofPairs (overrides.filterMap fun (name, field) =>
    match Table.find? env name with
    | some value => if value.isEmpty then none else some (field, .text value)
    | none => none)

/-- The values given for fields: options over environment variables, a later option over an earlier. -/
def given (options : Members) (env : Environment) : List (String × Value) :=
  options.foldl (fun fields (key, value) => Table.put (fieldName key) value fields) (fromEnvironment env)

/-- The value of a field: read from the value given for it, or its default. -/
def readField {α : Type} (given : List (String × Value)) (field : String) (read : Value → Except Problem α)
    (default : α) : Except Violation α :=
  match Table.find? given field with
  | none => .ok default
  | some v => (read v).mapError fun problem => ⟨some field, problem, v⟩

/-- The violation of a field that could not be read. -/
def violation? {α : Type} : Except Violation α → Option Violation
  | .ok _ => none
  | .error v => some v

/-- The settings that given values make. All violations are reported, in the order of the fields. -/
def ofGiven (fields : List (String × Value)) : Except SettingsError Settings :=
  let base : Settings := {}
  let nodePath := readField fields "node_path" readText base.nodePath
  let packageName := readField fields "package_name" readText base.packageName
  let configFilename := readField fields "config_filename" readText base.configFilename
  let maxAscent := readField fields "max_ascent" readPositive base.maxAscent
  let lintTimeout := readField fields "lint_timeout" readTimeout base.lintTimeout
  let trace := readField fields "trace" readTruth base.trace
  let source := readField fields "source" readText base.source
  match nodePath, packageName, configFilename, maxAscent, lintTimeout, trace, source with
  | .ok nodePath, .ok packageName, .ok configFilename, .ok maxAscent, .ok lintTimeout, .ok trace,
      .ok source =>
    .ok { nodePath, packageName, configFilename, maxAscent, lintTimeout, trace, source }
  | _, _, _, _, _, _, _ =>
    .error ⟨"ServerSettings", [violation? nodePath, violation? packageName,
      violation? configFilename, violation? maxAscent, violation? lintTimeout, violation? trace,
      violation? source].filterMap id⟩

/-- The settings that options and an environment make. -/
def load (options : Members) (env : Environment) : Except SettingsError Settings :=
  ofGiven (given options env)

end Settings

end LintBridge
