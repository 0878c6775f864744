-- SUMMARY: Loaded configurations.
import LintBridge.Json.Value
import LintBridge.Path

/-!
# Configurations

A configuration is the rule set that the library loads from the configuration file next to a document
or nearest above it.
-/

namespace LintBridge

/-- A rule set with the file it was loaded from. -/
structure Configuration where
  path : Path
  directory : Path
  data : Json.Members
  deriving Repr

/-- A configuration in use. Those of one serial number are the same. -/
structure LoadedConfiguration where
  serial : Nat
  configuration : Configuration
  deriving Repr

end LintBridge
