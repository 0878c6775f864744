-- SUMMARY: The calls on the search for the library.
import LintBridge.Library.Search
import LintBridge.Routine.Pool

/-!
# Calls on the search

One search, with the global directories that it remembers, locates the libraries of files and resolves them.
-/

namespace LintBridge

open Library

/-- A call on the search for the library. -/
inductive LibraryCall where
  | locate (file : Path)
  | resolve (file : Path)

namespace LibraryCall

abbrev Result : LibraryCall → Type
  | .locate _ => Except LintError (Path × Source)
  | .resolve _ => Except LintError Handle

def routine (settings : Settings) : (call : LibraryCall) → Routine call.Result
  | .locate file => (Library.locate settings file).run
  | .resolve file => (Library.resolve settings file).run

end LibraryCall

/-- The calls on one search for the library. -/
abbrev libraryCalls (settings : Settings) : Calls :=
  ⟨LibraryCall, LibraryCall.Result, LibraryCall.routine settings⟩

end LintBridge
