-- SUMMARY: The calls that share one cache, and what may happen around them.
import LintBridge.Cache.Lookup
import LintBridge.Routine.Pool
import LintBridge.Session.Basic

/-!
# Calls on a cache

Requests look up libraries and configurations in one cache, each on a thread of its own, while others
drop configurations or all entries. Around them either nothing changes but what is asked, or files are
changed as well.
-/

namespace LintBridge

open Library

/-- A call that uses the cache. -/
inductive CacheCall where
  | library (file : Path)
  | configuration (file : Path) (adapter : Adapter)
  | clearConfigurations
  | clear
  /-- A notification that configuration files have changed. -/
  | changed (uris : List String)

namespace CacheCall

abbrev Result : CacheCall → Type
  | .library _ => Except LintError Adapter
  | .configuration .. => Except LintError LoadedConfiguration
  | _ => Unit

def routine (settings : Settings) : (call : CacheCall) → Routine call.Result
  | .library file => (libraryFor settings file).run
  | .configuration file adapter => (configurationFor settings file adapter).run
  | .clearConfigurations => Routine.step .dropConfigurations
  | .clear => Routine.step .clearCache
  | .changed uris => (Session.service settings).configurationChanged uris

end CacheCall

/-- The calls on the cache of a service. -/
abbrev cacheCalls (settings : Settings) : Calls := ⟨CacheCall, CacheCall.Result, CacheCall.routine settings⟩

/-- Calls are started, and nothing else happens. -/
def calling (settings : Settings) : Surroundings (cacheCalls settings) := fun p s _ => s = p.state

/-- Calls are started, each for a configuration with an adapter that was found for its file, and nothing
else happens. -/
def callingInOrder (settings : Settings) : Surroundings (cacheCalls settings) := fun p s calls =>
  s = p.state ∧ ∀ file adapter, .configuration file adapter ∈ calls →
    (⟨.library file, .done (.ok adapter)⟩ : Task (cacheCalls settings)) ∈ p.tasks

/-- Calls are started, and the host changes. -/
def callingAndChanging (settings : Settings) : Surroundings (cacheCalls settings) := fun p s _ =>
  ∃ host, s = { p.state with host }

end LintBridge
