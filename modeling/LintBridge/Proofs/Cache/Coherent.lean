-- SUMMARY: Caches whose entries are what is found without a cache, and the look-ups that keep them so.
import LintBridge.Cache.Calls
import LintBridge.Proofs.Cache.Uncached

/-!
# Coherent caches

On a host that stays as it is, a cache is coherent when each entry is what would be found anew: for its
own key, and for every other file that the entry is served to. Every step of a look-up keeps the cache
coherent, whatever steps of other look-ups come between, and relies on nothing else. So a look-up comes to
what it comes to without a cache.
-/

namespace LintBridge

open Library

/-- The question for the global directory of a source. A project has none. -/
def Library.rootQuestion : Source → Attempt LintError (Option Path)
  | .npm => askNpm
  | .yarn => askYarn
  | .project => pure none

/-- The entries of a cache are what is found on a host without a cache. -/
structure Cache.Coherent (settings : Settings) (h : Host) (c : Cache) : Prop where
  files : ∀ file adapter, Table.find? c.files file = some adapter →
    (uncached settings h file).map Handle.description = .ok adapter.handle.description
  packages : ∀ directory adapter, Table.find? c.packages directory = some adapter → ∀ source,
    (loaded settings h directory source).map Handle.description = .ok adapter.handle.description
  configurations : ∀ directory found, Table.find? c.configurations directory = some found →
    ∀ file handle, file.parent = directory →
      (uncached settings h file).map Handle.description = .ok handle.description →
        Configuration.uncached settings h handle file = .ok found.configuration
  roots : ∀ source root, Table.find? c.roots source = some root →
    ((rootQuestion source).runOn h.fresh).1 = .ok root

/-- The host is the given one, and the cache is coherent for it. -/
structure State.Coherent (settings : Settings) (h : Host) (s : State) : Prop where
  host : s.host = h
  cache : s.cache.Coherent settings h

variable {α β ε : Type} {settings : Settings} {h : Host}

/-! ## Coherence of changed caches -/

namespace Cache

theorem coherent_empty : Coherent settings h {} := by
  constructor
  case files => intro _ _ hfound; cases hfound
  case packages => intro _ _ hfound; cases hfound
  case configurations => intro _ _ hfound; cases hfound
  case roots => intro _ _ hfound; cases hfound

variable {c : Cache}

theorem Coherent.libraryOf (hc : c.Coherent settings h) (file : Path) :
    (c.libraryOf file).2.Coherent settings h := by
  unfold Cache.libraryOf
  split
  next => exact ⟨hc.files, hc.packages, hc.configurations, hc.roots⟩
  next => exact hc

theorem Coherent.configurationOf (hc : c.Coherent settings h) (directory : Path) :
    (c.configurationOf directory).2.Coherent settings h := by
  unfold Cache.configurationOf
  split
  next => exact ⟨hc.files, hc.packages, hc.configurations, hc.roots⟩
  next => exact hc

theorem Coherent.keepLibrary (hc : c.Coherent settings h) {file : Path} {adapter : Adapter}
    (hadapter : (uncached settings h file).map Handle.description = .ok adapter.handle.description) :
    (c.keepLibrary file adapter).Coherent settings h := by
  refine ⟨?_, hc.packages, hc.configurations, hc.roots⟩
  intro file' adapter' hfound
  rw [Cache.keepLibrary, Table.find?_put] at hfound
  split at hfound
  next hfile =>
    cases hfound
    exact hfile ▸ hadapter
  next => exact hc.files file' adapter' hfound

theorem Coherent.keepPackage (hc : c.Coherent settings h) {directory : Path} {source : Source}
    {handle : Handle} (hhandle : loaded settings h directory source = .ok handle) :
    (c.keepPackage directory handle).2.Coherent settings h := by
  refine ⟨hc.files, ?_, hc.configurations, hc.roots⟩
  intro directory' adapter' hfound source'
  rw [Cache.keepPackage, Table.find?_put] at hfound
  split at hfound
  next hdirectory =>
    cases hfound
    rw [← hdirectory, description_loaded settings h directory source' source, hhandle]
    rfl
  next => exact hc.packages directory' adapter' hfound source'

theorem Coherent.keepConfiguration (hc : c.Coherent settings h) (hstill : h.Still) {file : Path}
    {handle : Handle} {configuration : Configuration}
    (hhandle : (uncached settings h file).map Handle.description = .ok handle.description)
    (hloaded : Configuration.uncached settings h handle file = .ok configuration) :
    (c.keepConfiguration file.parent configuration).2.Coherent settings h := by
  refine ⟨hc.files, hc.packages, ?_, hc.roots⟩
  intro directory found hfound file' handle' hparent hhandle'
  rw [Cache.keepConfiguration, Table.find?_put] at hfound
  split at hfound
  next hdirectory =>
    cases hfound
    have hsiblings : file.parent = file'.parent := hdirectory.trans hparent.symm
    -- siblings have one library, so the other file would load the same configuration through it
    have hsame : handle.description = handle'.description := by
      cases huncached : uncached settings h file with
      | error e =>
        rw [huncached] at hhandle
        cases hhandle
      | ok library =>
        rw [uncached_sibling hstill hsiblings huncached] at hhandle'
        rw [huncached] at hhandle
        exact Except.ok.inj (hhandle.symm.trans hhandle')
    exact Configuration.uncached_sibling hstill hsame hsiblings hloaded
  next => exact hc.configurations directory found hfound file' handle' hparent hhandle'

theorem Coherent.keepRoot (hc : c.Coherent settings h) {source : Source} {root : Option Path}
    (hroot : ((rootQuestion source).runOn h.fresh).1 = .ok root) :
    (c.keepRoot source root).Coherent settings h := by
  refine ⟨hc.files, hc.packages, hc.configurations, ?_⟩
  intro source' root' hfound
  rw [Cache.keepRoot, Table.find?_put] at hfound
  split at hfound
  next hsource =>
    cases hfound
    exact hsource ▸ hroot
  next => exact hc.roots source' root' hfound

theorem Coherent.dropConfigurations (hc : c.Coherent settings h) :
    c.dropConfigurations.Coherent settings h := by
  refine ⟨hc.files, hc.packages, ?_, hc.roots⟩
  intro _ _ hfound
  cases hfound

theorem Coherent.clear (hc : c.Coherent settings h) : c.clear.Coherent settings h := by
  refine ⟨?_, ?_, ?_, hc.roots⟩
  · intro _ _ hfound; cases hfound
  · intro _ _ hfound; cases hfound
  · intro _ _ hfound; cases hfound

end Cache

theorem Host.coherent_fresh (h : Host) : h.fresh.Coherent settings h := ⟨rfl, Cache.coherent_empty⟩

/-! ## Routines with one end -/

/-- A routine keeps the state coherent, and relies on that alone to come to an end of some kind. -/
abbrev Routine.Coherently (settings : Settings) (h : Host) (post : α → Prop) (r : Routine α) : Prop :=
  r.Upholds (State.Coherent settings h) (fun _ => State.Coherent settings h) post

/-- A routine has one end only. -/
def Routine.Settles (settings : Settings) (h : Host) (r : Routine α) : Prop :=
  ∃ a, r.Coherently settings h (· = a)

namespace Routine

/-- The one end of a routine is the one that it comes to with nothing in the memory. -/
theorem Settles.coherently {r : Routine α} (hr : r.Settles settings h) :
    r.Coherently settings h (· = (r.run h.fresh).1) := by
  obtain ⟨a, ha⟩ := hr
  obtain ⟨hend, -⟩ := ha.run (fun _ _ _ hkept => hkept) h.coherent_fresh
  rwa [hend]

theorem settles_pure (a : α) : (pure a : Routine α).Settles settings h := ⟨a, upholds_pure rfl⟩

theorem settles_bind {r : Routine α} {f : α → Routine β} (hr : r.Settles settings h)
    (hf : ∀ a, (f a).Settles settings h) : (r >>= f).Settles settings h := by
  obtain ⟨a, ha⟩ := hr
  obtain ⟨b, hb⟩ := hf a
  exact ⟨b, upholds_bind ha fun a' ha' => ha' ▸ hb⟩

theorem Asks.settles {r : Routine α} (hr : r.Asks Query.OfHost) (hstill : h.Still) :
    r.Settles settings h := by
  refine ⟨_, (hr.settled hstill (s := h.fresh) rfl).mono (fun _ hs => hs.host) ?_ fun _ ha => ha⟩
  intro s s' hs hkept
  exact ⟨hkept.1, hkept.2 ▸ hs.cache⟩

end Routine

theorem Attempt.settles_bind {r : Attempt ε α} {f : α → Attempt ε β} (hr : r.run.Settles settings h)
    (hf : ∀ a, (f a).run.Settles settings h) : (r >>= f).run.Settles settings h := by
  refine Routine.settles_bind hr fun result => ?_
  cases result with
  | error e => exact Routine.settles_pure _
  | ok a => exact hf a

/-! ## The search for the library -/

namespace Library

open Attempt

theorem settles_rootQuestion (hstill : h.Still) (source : Source) :
    (rootQuestion source).run.Settles settings h := by
  cases source with
  | npm => exact Routine.Asks.settles asks_askNpm.ofHost hstill
  | yarn => exact Routine.Asks.settles asks_askYarn.ofHost hstill
  | project => exact Routine.settles_pure _

theorem settles_globalRoot (hstill : h.Still) (source : Source) :
    (globalRoot source (rootQuestion source)).run.Settles settings h := by
  refine ⟨((rootQuestion source).runOn h.fresh).1, ?_⟩
  refine upholds_step_bind fun s hs => ⟨hs, ?_⟩
  cases hknown : ((Query.rootOf source).answer s).1 with
  | some root => exact upholds_pure (hs.cache.roots source root hknown).symm
  | none =>
    have hquestion : (rootQuestion source).run.Coherently settings h (· = ((rootQuestion source).runOn h.fresh).1) :=
      (settles_rootQuestion hstill source).coherently
    refine upholds_bind hquestion (fun root hroot => ?_) fun _ he => he
    exact upholds_step_bind fun s hs => ⟨⟨hs.host, hs.cache.keepRoot hroot.symm⟩, upholds_pure hroot⟩

theorem settles_searchGlobal (hstill : h.Still) (package : String) (source : Source) :
    (searchGlobal package source (rootQuestion source)).run.Settles settings h := by
  refine settles_bind (settles_globalRoot hstill source) fun root => ?_
  cases root with
  | none => exact Routine.settles_pure _
  | some root => exact Routine.Asks.settles (asks_packageIn package root).ofHost hstill

theorem settles_searchSource (hstill : h.Still) (directory : Path) (source : Source) :
    (searchSource settings directory source).run.Settles settings h := by
  cases source with
  | project => exact Routine.Asks.settles (asks_searchDirectories ..).ofHost hstill
  | npm => exact settles_searchGlobal hstill settings.packageName .npm
  | yarn => exact settles_searchGlobal hstill settings.packageName .yarn

theorem settles_searchSources (hstill : h.Still) (directory : Path) (sources : List Source) :
    (searchSources settings directory sources).run.Settles settings h := by
  induction sources with
  | nil => exact Routine.settles_pure _
  | cons source rest ih =>
    refine settles_bind (settles_searchSource hstill directory source) fun found => ?_
    have hlogged (level : Log.Level) (message : String) :
        ((Routine.logged level "library.resolver" message).attempt : Attempt LintError _).run.Settles settings h :=
      Routine.Asks.settles (asks_attempt (Routine.asks_logged fun _ h => h)) hstill
    cases found with
    | some found => exact settles_bind (hlogged _ _) fun _ => Routine.settles_pure _
    | none => exact settles_bind (hlogged _ _) fun _ => ih

end Library

/-! ## Look-ups -/

open Attempt

/-- An adapter that is found for a directory has the library of that directory. -/
theorem coherently_adapterAt (hstill : h.Still) (directory : Path) (source : Source) :
    (adapterAt settings directory source).run.Coherently settings h fun result =>
      result.map (·.handle.description) = (loaded settings h directory source).map Handle.description := by
  refine upholds_step_bind fun s hs => ⟨hs, ?_⟩
  cases hknown : ((Query.packageAt directory).answer s).1 with
  | some adapter => exact upholds_pure (hs.cache.packages directory adapter hknown source).symm
  | none =>
    have hload : (load settings.packageName directory source).run.Coherently settings h _ :=
      Routine.Settles.coherently ((asks_load ..).settles hstill)
    refine upholds_bind hload (fun handle hhandle => ?_) fun e he => ?_
    · have hhandle : loaded settings h directory source = .ok handle := hhandle.symm
      refine upholds_step (q := .keepPackage directory handle) fun s hs =>
        ⟨⟨hs.host, hs.cache.keepPackage hhandle⟩, ?_⟩
      rw [hhandle]
      rfl
    · have he : loaded settings h directory source = .error e := he.symm
      rw [he]
      rfl

theorem coherently_locate (hstill : h.Still) (file : Path) :
    (locate settings file).run.Coherently settings h (· = do
      match ← located settings h file.parent with
      | some found => .ok found
      | none => .error (.noLibrary settings.packageName file)) := by
  have hsearch : (searchSources settings file.parent [.project, .npm, .yarn]).run.Coherently settings h
      (· = located settings h file.parent) := (settles_searchSources hstill file.parent _).coherently
  refine upholds_bind hsearch (fun found hfound => ?_) fun e he => ?_
  · rw [← hfound]
    cases found with
    | none => exact upholds_throw rfl
    | some found => exact upholds_pure rfl
  · rw [← he]
    rfl

/-- The adapter that is found for a file has its library. -/
theorem coherently_libraryFor (hstill : h.Still) (file : Path) :
    (libraryFor settings file).run.Coherently settings h fun result =>
      result.map (·.handle.description) = (uncached settings h file).map Handle.description := by
  refine upholds_step_bind fun s hs => ⟨⟨hs.host, hs.cache.libraryOf file⟩, ?_⟩
  cases hknown : ((Query.libraryOf file).answer s).1 with
  | some adapter =>
    have hfound := (s.cache.libraryOf_fst file).symm.trans hknown
    exact upholds_pure (hs.cache.files file adapter hfound).symm
  | none =>
    have hlocate : (locate settings file).run.Coherently settings h _ := coherently_locate hstill file
    have huncached := uncached_eq settings hstill file
    cases hlocated : located settings h file.parent with
    | error e =>
      rw [hlocated] at hlocate huncached
      rw [huncached]
      refine upholds_bind hlocate (fun _ hfound => nomatch hfound) fun e he => ?_
      cases he
      rfl
    | ok found =>
      rw [hlocated] at hlocate huncached
      cases found with
      | none =>
        rw [huncached]
        refine upholds_bind hlocate (fun _ hfound => nomatch hfound) fun e he => ?_
        cases he
        rfl
      | some found =>
        obtain ⟨directory, source⟩ := found
        refine upholds_bind hlocate ?_ (fun _ hfound => nomatch hfound)
        rintro found ⟨⟩
        rw [huncached]
        refine upholds_bind (coherently_adapterAt hstill directory source) (fun adapter hadapter => ?_)
          fun e he => he
        refine upholds_step_bind fun s hs => ⟨⟨hs.host, hs.cache.keepLibrary ?_⟩, upholds_pure hadapter⟩
        rw [huncached]
        exact hadapter.symm

/-- The configuration that is found for a file, with the library of the file, is the one that is found
without a cache. -/
theorem coherently_configurationFor (hstill : h.Still) (file : Path) (adapter : Adapter)
    (hadapter : (uncached settings h file).map Handle.description = .ok adapter.handle.description) :
    (configurationFor settings file adapter).run.Coherently settings h fun result =>
      result.map (·.configuration) = Configuration.uncached settings h adapter.handle file := by
  refine upholds_step_bind fun s hs => ⟨⟨hs.host, hs.cache.configurationOf file.parent⟩, ?_⟩
  cases hknown : ((Query.configurationOf file.parent).answer s).1 with
  | some found =>
    have hfound := (s.cache.configurationOf_fst file.parent).symm.trans hknown
    exact upholds_pure (hs.cache.configurations _ found hfound file adapter.handle rfl hadapter).symm
  | none =>
    have hresolve : (Configuration.resolve settings adapter.handle file).run.Coherently settings h _ :=
      Routine.Settles.coherently ((Configuration.asks_resolve ..).settles hstill)
    refine upholds_bind hresolve (fun configuration hconfiguration => ?_) fun e he => ?_
    · have hconfiguration : Configuration.uncached settings h adapter.handle file = .ok configuration :=
        hconfiguration.symm
      refine upholds_step (q := .keepConfiguration file.parent configuration) fun s hs =>
        ⟨⟨hs.host, hs.cache.keepConfiguration hstill hadapter hconfiguration⟩, ?_⟩
      rw [hconfiguration]
      rfl
    · have he : Configuration.uncached settings h adapter.handle file = .error e := he.symm
      rw [he]
      rfl

end LintBridge
