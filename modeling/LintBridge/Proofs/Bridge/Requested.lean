-- SUMMARY: The child process of a lint runs the program of its generation and is told exactly what to lint.
import LintBridge.Proofs.Json.Printed
import LintBridge.Proofs.Path
import LintBridge.Proofs.Service.LintCalls

/-!
# What a lint requests

The child process of a lint runs the program of the library's generation, and the two generations have different
programs, each of which reads in its request all that the request says. The input is ASCII and is read as one object:
the library, the action, the file, the text, and options under which nothing is fixed, with the configuration beside
them or among them. So for one library the input says which text is linted as the contents of which file under which
configuration.
-/

namespace LintBridge

open Json Text

namespace Bridge

/-! ## Programs -/

theorem program_modern_ne_legacy : program .modern ≠ program .legacy := by
  decide +kernel

/-- The programs of the generations are different. -/
theorem program_injective : Function.Injective program := by
  intro generation generation' h
  cases generation with
  | modern =>
    cases generation' with
    | modern => rfl
    | legacy => exact absurd h program_modern_ne_legacy
  | legacy =>
    cases generation' with
    | modern => exact absurd h.symm program_modern_ne_legacy
    | legacy => rfl

/-! ## What the programs read -/

/-- The names at the beginning of a text, with points between them. -/
def leadingNames (s : List Char) : List String :=
  (pieces '.' (s.takeWhile fun c => c.isAlphanum || c == '.')).map String.ofList

/-- What stands before a name that a program reads in its request. -/
def requestMark : List Char := ['r', 'e', 'q', 'u', 'e', 's', 't', '.']

/-- The paths of names that a line of a program reads in its request, outermost name first. -/
def pathsIn : List Char → List (List String)
  | [] => []
  | c :: rest =>
    match requestMark.isPrefixOf? (c :: rest) with
    | some names => leadingNames names :: pathsIn rest
    | none => pathsIn rest

/-- The lines that carry out an action: the one that names it, and those that are set in below it. -/
def linesOf (generation : Generation) (action : Action) : List String :=
  match (actions generation).dropWhile (!("  " ++ action.name ++ ": ").isPrefixOf ·) with
  | [] => []
  | first :: rest => first :: rest.takeWhile ("    ".isPrefixOf ·)

/-- The paths that the program of a generation reads in a request for an action. -/
def pathsRead (generation : Generation) (action : Action) : List (List String) :=
  (linesOf generation action ++ exchange).flatMap fun line => pathsIn line.toList

/-- What a path of names leads to in a value. -/
def valueAt? : Value → List String → Option Value
  | v, [] => some v
  | .object members, name :: path => (member? members name).bind (valueAt? · path)
  | _, _ :: _ => none

/-- What a request for an action says besides the library and the action. -/
def detailsFor (job : LintJob) (generation : Generation) : Action → Members
  | .lint => lintDetails job generation
  | .loadConfiguration => loadDetails job.configuration

theorem pathsRead_eq (generation : Generation) (action : Action) :
    pathsRead generation action =
      (match generation, action with
        | _, .loadConfiguration => [["configuration"]]
        | .modern, .lint => [["configuration"], ["options"], ["filePath"], ["text"]]
        | .legacy, .lint => [["options"], ["options", "configuration"], ["filePath"], ["text"]]) ++
      [["library"], ["action"]] := by
  have hshared : (exchange.flatMap fun line => pathsIn line.toList) = [["library"], ["action"]] := by decide +kernel
  rw [pathsRead, List.flatMap_append, hshared, List.append_cancel_right_eq]
  cases generation <;> cases action <;> decide +kernel

/-- Whatever a program reads in a request is there, and it reads every member of it. -/
theorem program_reads_request (handle : Library.Handle) (job : LintJob) (action : Action) :
    let details := detailsFor job handle.generation action
    (∀ path ∈ pathsRead handle.generation action, ∃ v, valueAt? (request handle action details) path = some v) ∧
      ∀ fields, request handle action details = .object fields →
        ∀ field ∈ fields, ∃ name : String, field.1 = name ∧ [name] ∈ pathsRead handle.generation action := by
  intro details
  rw [pathsRead_eq]
  obtain ⟨_, _, _, _, generation⟩ := handle
  constructor
  · cases generation <;> cases action <;>
      simp [details, valueAt?, request, detailsFor, lintDetails, lintSetup, lintOptions, loadDetails, member?,
        Table.find?]
  · rintro fields ⟨⟩
    cases generation <;> cases action <;>
      simp [details, detailsFor, lintDetails, lintSetup, loadDetails]

/-! ## Requests -/

/-- All that a request to lint a text says, with each key in its place. -/
def lintFields (handle : Library.Handle) (file : Path) (text : String) (configuration : Path) : Members :=
  match handle.generation with
  | .modern => [
    ("library", .text handle.path.text), ("action", .text "lint"), ("filePath", .text file.text), ("text", .text text),
    ("options", .object [("formatter", .text "json"), ("fix", .bool false)]),
    ("configuration", .text configuration.text)]
  | .legacy => [
    ("library", .text handle.path.text), ("action", .text "lint"), ("filePath", .text file.text), ("text", .text text),
    ("options", .object [("formatter", .text "json"), ("fix", .bool false),
      ("configuration", .text configuration.text)])]

variable {handle : Library.Handle} {file file' configuration configuration' : Path} {text text' : String}

theorem request_lint (handle : Library.Handle) (file : Path) (text : String) (configuration : Path) :
    request handle .lint (lintDetails { file, text, configuration } handle.generation) =
      .object (lintFields handle file text configuration) := by
  rw [lintFields]
  cases handle.generation <;> rfl

/-- A lint request holds no numbers, and no object in it has a key twice. -/
theorem numberless_lintFields (handle : Library.Handle) (file : Path) (text : String) (configuration : Path)
    (depth : Nat) : Numberless (depth + 2) (.object (lintFields handle file text configuration)) := by
  rw [lintFields]
  cases handle.generation <;> simp

/-- The fields tell the texts of the two paths and the text between them. -/
theorem lintFields_inj (handle : Library.Handle) :
    lintFields handle file' text' configuration' = lintFields handle file text configuration ↔
      file'.text = file.text ∧ text' = text ∧ configuration'.text = configuration.text := by
  simp only [lintFields]
  cases handle.generation <;> simp

/-! ## Inputs -/

/-- The input of the child process that lints a text. -/
def lintInput (handle : Library.Handle) (file : Path) (text : String) (configuration : Path) : String :=
  (request handle .lint (lintDetails { file, text, configuration } handle.generation)).toJson

theorem toList_lintInput (handle : Library.Handle) (file : Path) (text : String) (configuration : Path) :
    (lintInput handle file text configuration).toList =
      print (.object (lintFields handle file text configuration)) := by
  rw [lintInput, request_lint, Value.toJson, String.toList_ofList]

theorem isAscii_lintInput (handle : Library.Handle) (file : Path) (text : String) (configuration : Path) :
    ∀ c ∈ (lintInput handle file text configuration).toList, isAscii c := by
  rw [toList_lintInput]
  exact (numberless_lintFields handle file text configuration 0).isAscii_print

/-- The input is read as the fields of the request. -/
theorem read_lintInput (handle : Library.Handle) (file : Path) (text : String) (configuration : Path) :
    ∀ depth, Json.read (depth + 2) (lintInput handle file text configuration).toList =
      .ok (.object (lintFields handle file text configuration)) := by
  intro depth
  rw [toList_lintInput]
  exact read_print (numberless_lintFields handle file text configuration depth)

/-- For one library, each input is that of one job. -/
theorem lintInput_inj (hfile' : file'.Proper) (hfile : file.Proper) (hconfiguration' : configuration'.Proper)
    (hconfiguration : configuration.Proper) :
    lintInput handle file' text' configuration' = lintInput handle file text configuration ↔
      file' = file ∧ text' = text ∧ configuration' = configuration := by
  rw [← Path.text_inj hfile' hfile, ← Path.text_inj hconfiguration' hconfiguration, ← lintFields_inj handle]
  constructor
  · intro h
    have hread := congrArg (fun input => Json.read 2 input.toList) h
    simpa only [read_lintInput _ _ _ _ 0, Except.ok.injEq, Value.object.injEq] using hread
  · intro h
    rw [lintInput, lintInput, request_lint, request_lint, h]

/-- A lint starts the child process for its job, if a host has the executable for it. -/
theorem callsStarted_lint (settings : Settings) (handle : Library.Handle) (job : LintJob) (s : State) :
    callsStarted ((lint settings handle job).asked s) =
      (childOf settings handle .lint (lintDetails job handle.generation) job.file.parent s.host).toList := by
  obtain ⟨-, hcalls, -⟩ :=
    runOn_exchangeWith settings handle .lint (lintDetails job handle.generation) job.file.parent s
  rw [lint, Attempt.asked_bind_ofExcept, hcalls]

end Bridge

namespace Service

open Bridge

/-- A lint with a library and a configuration starts one child process, with the program of the library's generation
and of no other, if the executable for it is found. The input of that is ASCII and is read as the fields of the
request and nothing else, and it is the input for no other file, text or configuration. -/
theorem lintWith_requests_exactly (s : Service) (handle : Library.Handle) {file : Path} (document : Document)
    {configuration : Configuration} (hfile : file.Proper) (hconfiguration : configuration.path.Proper) :
    ∃ input : String,
      (∀ σ, callsStarted ((s.lintWith file document handle configuration).asked σ) =
        ((Command.executable? σ.host s.settings.nodePath).map fun node => ({
          argv := [node, "-e", program handle.generation]
          cwd := some file.parent
          input := some input
          timeout := s.settings.lintTimeout.map .fraction } : Command.Call)).toList) ∧
      (∀ generation, program generation = program handle.generation → generation = handle.generation) ∧
      (∀ c ∈ input.toList, isAscii c) ∧
      (∀ depth, Json.read (depth + 2) input.toList =
        .ok (.object (lintFields handle file document.text configuration.path))) ∧
      ∀ (file' : Path) (document' : Document) (configuration' : Configuration) (σ : State),
        file'.Proper → configuration'.path.Proper →
          ∀ call ∈ callsStarted ((s.lintWith file' document' handle configuration').asked σ),
            (call.input = some input ↔ file' = file ∧ document'.text = document.text ∧
              configuration'.path = configuration.path) := by
  refine ⟨lintInput handle file document.text configuration.path, fun σ => ?_,
    fun _ h => program_injective h, isAscii_lintInput handle file _ _, read_lintInput handle file _ _, ?_⟩
  · rw [callsStarted_lintWith, callsStarted_lint]
    rfl
  · intro file' document' configuration' σ hfile' hconfiguration' call hcall
    rw [callsStarted_lintWith, callsStarted_lint, Option.mem_toList] at hcall
    rw [input_of_childOf hcall, Option.some.injEq]
    exact lintInput_inj hfile' hfile hconfiguration' hconfiguration

/-- The text holds a quote, a backslash, a line break, a delete character, and a character outside the basic plane. -/
theorem lintWith_requests_exactly_escaped :
    let s : Service :=
      { settings := { nodePath := "/bin/node" }, documents := fun _ => pure none, report := fun _ => pure () }
    let handle : Library.Handle := ⟨.ofString "/lib/tslint", .ofString "/lib/tslint", none, .project, .legacy⟩
    let document : Document := ⟨"file:///a.ts", "\"\\\n\x7f😀", 1⟩
    let configuration : Configuration := ⟨.ofString "/tslint.json", .ofString "/", []⟩
    let σ : State := { host := {
      files := ⟨[], []⟩, environment := [], executables := [], replies := fun _ => { outcome := .refused "" } } }
    ∃ call input, callsStarted ((s.lintWith (.ofString "/a.ts") document handle configuration).asked σ) = [call] ∧
      call.argv = ["/bin/node", "-e", program .legacy] ∧ call.input = some input ∧
      Json.read 2 input.toList = .ok (.object [("library", .text "/lib/tslint"), ("action", .text "lint"),
        ("filePath", .text "/a.ts"), ("text", .text "\"\\\n\x7f😀"),
        ("options", .object [("formatter", .text "json"), ("fix", .bool false),
          ("configuration", .text "/tslint.json")])]) ∧
      ∀ other ∈ callsStarted ((s.lintWith (.ofString "/b.ts") document handle configuration).asked σ),
        other.input ≠ some input := by
  intro s handle document configuration σ
  have hconfiguration : configuration.path.Proper := Path.proper_ofString "/tslint.json"
  obtain ⟨input, hcalls, -, -, hread, hother⟩ :=
    lintWith_requests_exactly s handle document (Path.proper_ofString "/a.ts") hconfiguration
  have habsolute : (Path.ofString s.settings.nodePath).isAbsolute := by decide
  have hnode : Command.executable? σ.host s.settings.nodePath = some "/bin/node" := by
    rw [Command.executable?, if_pos habsolute]
  have hcall := hcalls σ
  rw [hnode] at hcall
  refine ⟨_, input, hcall, rfl, rfl, hread 0, fun other hmem hinput => ?_⟩
  obtain ⟨hfile, -⟩ := (hother _ _ _ σ (Path.proper_ofString "/b.ts") hconfiguration other hmem).1 hinput
  exact absurd hfile (by decide)

end Service

end LintBridge
