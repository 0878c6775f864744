-- SUMMARY: Libraries and configurations through the cache.
import LintBridge.Cache.Basic
import LintBridge.Configuration.Search
import LintBridge.Library.Search

/-!
# Look-ups through the cache

What is not in the cache is resolved and kept. Each access to the cache is one step, and resolution
happens between two of them: when two routines miss at the same time both resolve, and the last to
store wins. Nothing is kept when resolution fails.
-/

namespace LintBridge

open Library

/-- The adapter of a package directory, loaded if there is none yet. -/
def adapterAt (settings : Settings) (directory : Path) (source : Source) : Attempt LintError Adapter := do
  match ← Attempt.step (.packageAt directory) with
  | some known => return known
  | none => do
    let handle ← load settings.packageName directory source
    Attempt.step (.keepPackage directory handle)

/-- The adapter that serves a file. -/
def libraryFor (settings : Settings) (file : Path) : Attempt LintError Adapter := do
  match ← Attempt.step (.libraryOf file) with
  | some known => return known
  | none => do
    let (directory, source) ← locate settings file
    let adapter ← adapterAt settings directory source
    Attempt.step (.keepLibrary file adapter)
    return adapter

/-- The configuration that governs a file, loaded with an adapter if its directory has none yet. -/
def configurationFor (settings : Settings) (file : Path) (adapter : Adapter) :
    Attempt LintError LoadedConfiguration := do
  match ← Attempt.step (.configurationOf file.parent) with
  | some known => return known
  | none => do
    let configuration ← Configuration.resolve settings adapter.handle file
    Attempt.step (.keepConfiguration file.parent configuration)

end LintBridge
