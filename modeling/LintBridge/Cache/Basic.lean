-- SUMMARY: What a lint service remembers of libraries and configurations.
import LintBridge.Configuration.Basic
import LintBridge.Library.Handle
import LintBridge.Table

/-!
# The cache

Adapters are kept for files and for the directories of packages, configurations for directories. Files
that reach one package share its adapter. Configurations are dropped all at once when a configuration
file changes, libraries only at the end. The global directories that have been asked for are kept
beside, also when there are none.
-/

namespace LintBridge

open Library

/-- Entries of the cache, and how often they were used. -/
structure Cache where
  /-- The adapters of files. -/
  files : List (Path × Adapter) := []
  /-- The adapters of package directories. -/
  packages : List (Path × Adapter) := []
  /-- The configurations of directories. -/
  configurations : List (Path × LoadedConfiguration) := []
  libraryHits : Nat := 0
  configurationHits : Nat := 0
  /-- The global directories that were asked for, with what was found. -/
  roots : List (Source × Option Path) := []
  /-- The number of adapters and configurations made so far. -/
  serials : Nat := 0
  deriving Repr

/-- The numbers that describe a cache. -/
structure CacheInfo where
  libraries : Nat
  libraryPaths : Nat
  configurations : Nat
  libraryHits : Nat
  configurationHits : Nat
  deriving DecidableEq, Repr

namespace Cache

/-- Look up the adapter of a file; finding one counts as a hit. -/
def libraryOf (c : Cache) (file : Path) : Option Adapter × Cache :=
  match Table.find? c.files file with
  | some adapter => (some adapter, { c with libraryHits := c.libraryHits + 1 })
  | none => (none, c)

theorem libraryOf_fst (c : Cache) (file : Path) : (c.libraryOf file).1 = Table.find? c.files file := by
  unfold libraryOf
  cases Table.find? c.files file <;> rfl

/-- Look up the adapter of a package directory. -/
def packageAt (c : Cache) (directory : Path) : Option Adapter := Table.find? c.packages directory

/-- Make an adapter of a handle and keep it for a package directory. -/
def keepPackage (c : Cache) (directory : Path) (handle : Handle) : Adapter × Cache :=
  let adapter : Adapter := ⟨c.serials, handle⟩
  (adapter, { c with packages := Table.put directory adapter c.packages, serials := c.serials + 1 })

/-- Keep an adapter for a file. -/
def keepLibrary (c : Cache) (file : Path) (adapter : Adapter) : Cache :=
  { c with files := Table.put file adapter c.files }

/-- Look up the configuration of a directory; finding one counts as a hit. -/
def configurationOf (c : Cache) (directory : Path) : Option LoadedConfiguration × Cache :=
  match Table.find? c.configurations directory with
  | some found => (some found, { c with configurationHits := c.configurationHits + 1 })
  | none => (none, c)

theorem configurationOf_fst (c : Cache) (directory : Path) :
    (c.configurationOf directory).1 = Table.find? c.configurations directory := by
  unfold configurationOf
  cases Table.find? c.configurations directory <;> rfl

/-- Keep a configuration for a directory. -/
def keepConfiguration (c : Cache) (directory : Path) (configuration : Configuration) :
    LoadedConfiguration × Cache :=
  let loaded : LoadedConfiguration := ⟨c.serials, configuration⟩
  (loaded, { c with
    configurations := Table.put directory loaded c.configurations, serials := c.serials + 1 })

/-- Drop all configurations. -/
def dropConfigurations (c : Cache) : Cache := { c with configurations := [] }

/-- Drop all entries and begin counting anew. The global directories stay known. -/
def clear (c : Cache) : Cache := { roots := c.roots, serials := c.serials }

/-- The global directory of a source, if it has been asked for. -/
def rootOf (c : Cache) (source : Source) : Option (Option Path) := Table.find? c.roots source

/-- Keep what was found for a global directory. -/
def keepRoot (c : Cache) (source : Source) (root : Option Path) : Cache :=
  { c with roots := Table.put source root c.roots }

def info (c : Cache) : CacheInfo :=
  { libraries := c.files.length
    libraryPaths := c.packages.length
    configurations := c.configurations.length
    libraryHits := c.libraryHits
    configurationHits := c.configurationHits }

end Cache

end LintBridge
