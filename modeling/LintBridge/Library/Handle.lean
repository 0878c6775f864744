-- SUMMARY: Handles of loaded linting libraries.
import LintBridge.Path
import LintBridge.Version.Generation

/-!
# Library handles

A handle says where a library is, where it was looked for, and which generation of the interface it
has. The generation is found when the library is loaded and stays with the handle.
-/

namespace LintBridge.Library

/-- The places where the library is looked for, in this order. -/
inductive Source where
  | project | npm | yarn
  deriving DecidableEq, Repr

def Source.name : Source → String
  | .project => "project"
  | .npm => "npm"
  | .yarn => "yarn"

/-- A loaded library. -/
structure Handle where
  /-- The directory of the package. -/
  path : Path
  entryPoint : Path
  version : Option String
  source : Source
  generation : Generation
  deriving DecidableEq, Repr

/-- A library in use. Adapters of one serial number are the same adapter. -/
structure Adapter where
  serial : Nat
  handle : Handle
  deriving DecidableEq, Repr

end LintBridge.Library
