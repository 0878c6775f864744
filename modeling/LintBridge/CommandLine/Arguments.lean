-- SUMMARY: The words of a command line and the command that they write.

/-!
# Arguments

The first word names the command. Options may stand before, between and after the files; all words
after two hyphens are files.
-/

namespace LintBridge.CommandLine

/-- A command with what it is told. -/
inductive Command where
  | check (files : List String) (verbose : Bool)
  | fix (file : String) (apply : Bool) (rule : Option String) (verbose : Bool)
  deriving DecidableEq, Repr

/-- The options and files of a command. -/
structure Arguments where
  files : List String := []
  verbose : Bool := false
  apply : Bool := false
  rule : Option String := none
  deriving DecidableEq, Repr

/-- Read the words after the name of a command. -/
def Arguments.read? (given : Arguments) : List String → Option Arguments
  | [] => some given
  | "--" :: files => some { given with files := given.files ++ files }
  | "--rule" :: rule :: rest => read? { given with rule := some rule } rest
  | word :: rest =>
    if word = "--verbose" ∨ word = "-v" then read? { given with verbose := true } rest
    else if word = "--write" ∨ word = "-w" then read? { given with apply := true } rest
    else if word.startsWith "-" then none
    else read? { given with files := given.files ++ [word] } rest

/-- The command that words write. -/
def Command.ofWords? : List String → Option Command
  | "check" :: rest => do
    let given ← Arguments.read? {} rest
    if given.files.isEmpty || given.apply || given.rule.isSome then none
    else some (.check given.files given.verbose)
  | "fix" :: rest => do
    let given ← Arguments.read? {} rest
    match given.files with
    | [file] => some (.fix file given.apply given.rule given.verbose)
    | _ => none
  | _ => none

/-- What is shown when the words write no command. -/
def usage : String :=
  "Usage: tslinter check [--verbose] FILE...\n" ++
  "       tslinter fix [--write] [--rule RULE] [--verbose] FILE"

end LintBridge.CommandLine
