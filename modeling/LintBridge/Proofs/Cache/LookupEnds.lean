-- SUMMARY: How a look-up ends that nothing comes between, with what it reads and what it leaves in the cache.
import LintBridge.Proofs.Cache.Uncached
import LintBridge.Proofs.Result
import LintBridge.Proofs.Routine.Asked

/-!
# Ends of a look-up

A look-up is answered from the cache, or it resolves what it looks for and keeps that, or it raises. Each end
says what the cache was like before and what has changed in it. A manifest is read only where a package is
loaded, and the global directories may become known in every search.
-/

namespace LintBridge

open Library

variable {α ε : Type}

/-- The file that a question reads. -/
def Query.fileRead? : Query → Option Path
  | .read file => some file
  | _ => none

/-- The files that are read by some questions. -/
def filesRead (questions : List Query) : List Path := questions.filterMap Query.fileRead?

theorem mem_filesRead {file : Path} {questions : List Query} (h : .read file ∈ questions) :
    file ∈ filesRead questions := List.mem_filterMap.2 ⟨_, h, rfl⟩

theorem filesRead_eq_nil {questions : List Query} (h : ∀ q ∈ questions, q.OfSearch) :
    filesRead questions = [] := by
  refine List.filterMap_eq_nil_iff.2 fun q hq => ?_
  have hsearch := h q hq
  cases q with
  | read => exact hsearch.elim
  | _ => rfl

theorem filesRead_append (questions questions' : List Query) :
    filesRead (questions ++ questions') = filesRead questions ++ filesRead questions' :=
  List.filterMap_append

/-! ## Parts of a look-up -/

/-- The cache with other global directories, and the same entries. -/
def Cache.withRoots (c : Cache) (roots : List (Source × Option Path)) : Cache := { c with roots }

/-- A search leaves the cache, but the global directories may have become known. -/
theorem Routine.Asks.cache_search {r : Routine α} (hr : r.Asks Query.OfSearch) (s : State) :
    ∃ roots, (r.run s).2.cache = s.cache.withRoots roots := by
  refine hr.run (I := fun s s' => ∃ roots, s'.cache = s.cache.withRoots roots)
    (fun s => ⟨s.cache.roots, rfl⟩) ?_ (fun q s hq => ?_) s
  · rintro s s' s'' ⟨roots, h⟩ ⟨roots', h'⟩
    exact ⟨roots', by rw [h', h]; rfl⟩
  · cases q with
    | log record => exact ⟨s.cache.roots, s.cache_log record⟩
    | keepRoot source root => exact ⟨_, rfl⟩
    | platform | environment | executable | isFile | realPath | start | rootOf => exact ⟨s.cache.roots, rfl⟩
    | _ => exact hq.elim

/-- Questions about the host leave the cache. -/
theorem Routine.Asks.cache_run {r : Routine α} (hr : r.Asks Query.OfHost) (s : State) :
    (r.run s).2.cache = s.cache :=
  hr.run (I := fun s s' => s'.cache = s.cache) (fun _ => rfl) (fun _ _ _ h h' => h'.trans h)
    (fun _ s hq => hq.cache_answer s) s

namespace Library

theorem path_ofManifest {rule : Version.CaseRule} {directory : Path} {source : Source} {manifest : Json.Members}
    {handle : Handle} (h : Handle.ofManifest rule directory source manifest = .ok handle) :
    handle.path = directory := by
  obtain ⟨version, -, h⟩ := bind_eq_ok_iff.1 h
  obtain ⟨generation, -, h⟩ := bind_eq_ok_iff.1 h
  cases h
  rfl

/-- A loaded library is the one of its directory. -/
theorem path_load {package : String} {directory : Path} {source : Source} {handle : Handle} {s s' : State}
    (h : (load package directory source).runOn s = (.ok handle, s')) : handle.path = directory := by
  rw [load, Attempt.runOn_platform_bind] at h
  obtain ⟨manifest, s₁, -, h⟩ := Attempt.runOn_bind_eq_ok_iff.1 h
  obtain ⟨handle', s₂, hmanifest, h⟩ := Attempt.runOn_bind_eq_ok_iff.1 h
  have hhandle : handle' = handle := by
    rw [Attempt.runOn_bind, Attempt.runOn_attempt] at h
    cases h
    rfl
  subst hhandle
  cases hmanifest' : Handle.ofManifest s.host.platform.caseRule directory source manifest with
  | error e =>
    rw [hmanifest'] at hmanifest
    cases hmanifest
  | ok handle'' =>
    rw [hmanifest'] at hmanifest
    cases hmanifest
    exact path_ofManifest hmanifest'

/-- Loading reads the manifest. -/
theorem reads_load (package : String) (directory : Path) (source : Source) (s : State) :
    .read (directory.child manifestName) ∈ (load package directory source).asked s := by
  rw [load, Attempt.asked_bind_ok (Attempt.runOn_step .platform s)]
  refine List.mem_append_right _ (Attempt.mem_asked_bind _ (Attempt.mem_asked_bind _ ?_))
  rw [Attempt.asked_step]
  exact List.mem_singleton_self _

end Library

/-! ## Libraries -/

/-- How the look-up of the library of a file ends: what it comes to, the files it reads, and the cache that
it leaves. -/
inductive LibraryEnd (file : Path) (c : Cache) : Except LintError Adapter → List Path → Cache → Prop
  | hit {adapter : Adapter} : Table.find? c.files file = some adapter →
      LibraryEnd file c (.ok adapter) [] { c with libraryHits := c.libraryHits + 1 }
  | shared {directory : Path} {adapter : Adapter} {roots : List (Source × Option Path)} :
      Table.find? c.files file = none → Table.find? c.packages directory = some adapter →
      LibraryEnd file c (.ok adapter) [] ((c.withRoots roots).keepLibrary file adapter)
  | loaded {handle : Handle} {read : List Path} {roots : List (Source × Option Path)} :
      Table.find? c.files file = none → Table.find? c.packages handle.path = none →
      handle.path.child manifestName ∈ read →
      LibraryEnd file c (.ok ⟨c.serials, handle⟩) read
        (((c.withRoots roots).keepPackage handle.path handle).2.keepLibrary file ⟨c.serials, handle⟩)
  | raised {e : LintError} {read : List Path} {roots : List (Source × Option Path)} :
      Table.find? c.files file = none → LibraryEnd file c (.error e) read (c.withRoots roots)

open Attempt

variable {s : State}

theorem runOn_adapterAt_known (settings : Settings) {directory : Path} {adapter : Adapter} (source : Source)
    (h : Table.find? s.cache.packages directory = some adapter) :
    (adapterAt settings directory source).runOn s = (.ok adapter, s) ∧
      (adapterAt settings directory source).asked s = [.packageAt directory] := by
  have hstep : (step (.packageAt directory) : Attempt LintError _).runOn s = (.ok (some adapter), s) := by
    rw [runOn_step]
    exact congrArg (fun found => (Except.ok found, s)) h
  rw [adapterAt, runOn_bind_ok hstep, asked_bind_ok hstep]
  exact ⟨rfl, rfl⟩

/-- A package directory without an adapter is loaded, and its manifest is read for that. -/
theorem runOn_adapterAt_new (settings : Settings) {directory : Path} (source : Source)
    (h : Table.find? s.cache.packages directory = none) :
    (∃ handle s', (adapterAt settings directory source).runOn s = (.ok ⟨s.cache.serials, handle⟩, s') ∧
      handle.path = directory ∧ s'.cache = (s.cache.keepPackage directory handle).2 ∧
      directory.child manifestName ∈ filesRead ((adapterAt settings directory source).asked s)) ∨
    ∃ e s', (adapterAt settings directory source).runOn s = (.error e, s') ∧ s'.cache = s.cache := by
  have hstep : (step (.packageAt directory) : Attempt LintError _).runOn s = (.ok none, s) := by
    rw [runOn_step]
    exact congrArg (fun found => (Except.ok found, s)) h
  have hcache := (asks_load settings.packageName directory source).cache_run s
  have hread := reads_load settings.packageName directory source s
  rw [adapterAt, runOn_bind_ok hstep, asked_bind_ok hstep]
  cases hload : (load settings.packageName directory source).runOn s with
  | mk result s' =>
    have hcache : s'.cache = s.cache := (congrArg (·.2.cache) hload).symm.trans hcache
    cases result with
    | error e => exact .inr ⟨e, s', runOn_bind_error hload, hcache⟩
    | ok handle =>
      refine .inl ⟨handle, { s' with cache := (s'.cache.keepPackage directory handle).2 }, ?_,
        path_load hload, ?_, ?_⟩
      · rw [← hcache]
        exact runOn_bind_ok hload
      · rw [← hcache]
      · exact mem_filesRead (List.mem_append_right _ (mem_asked_bind _ hread))

/-- The look-up of a library from the place where it was located on. -/
theorem adapterAt_ends {settings : Settings} {file : Path} {c : Cache} {roots : List (Source × Option Path)}
    (hfile : Table.find? c.files file = none) (hcache : s.cache = c.withRoots roots) (directory : Path)
    (source : Source) {rest : Attempt LintError Adapter}
    (hrest : rest = do
      let adapter ← adapterAt settings directory source
      step (.keepLibrary file adapter)
      return adapter) :
    LibraryEnd file c (rest.runOn s).1 (filesRead (rest.asked s)) (rest.runOn s).2.cache := by
  subst hrest
  cases hpackage : Table.find? s.cache.packages directory with
  | some adapter =>
    obtain ⟨hrun, hasked⟩ := runOn_adapterAt_known settings source hpackage
    rw [hcache] at hpackage
    have hend : LibraryEnd file c (.ok adapter) [] ((c.withRoots roots).keepLibrary file adapter) :=
      .shared hfile hpackage
    rw [← hcache] at hend
    rw [runOn_bind_ok hrun, asked_bind_ok hrun, hasked]
    exact hend
  | none =>
    rcases runOn_adapterAt_new settings source hpackage with
      ⟨handle, s', hrun, rfl, hkept, hread⟩ | ⟨e, s', hrun, hkept⟩
    · rw [hcache] at hkept hpackage hrun
      have hread := List.mem_append_left
        (filesRead [.keepLibrary file ⟨(c.withRoots roots).serials, handle⟩]) hread
      have hend : LibraryEnd file c _ _ (((c.withRoots roots).keepPackage handle.path handle).2.keepLibrary
        file ⟨c.serials, handle⟩) := .loaded hfile hpackage hread
      rw [← hkept] at hend
      rw [runOn_bind_ok hrun, asked_bind_ok hrun, filesRead_append]
      exact hend
    · rw [runOn_bind_error hrun, hkept, hcache]
      exact .raised hfile

/-- Every look-up of a library comes to one of the ends. -/
theorem libraryFor_ends (settings : Settings) (file : Path) (s : State) :
    LibraryEnd file s.cache ((libraryFor settings file).runOn s).1
      (filesRead ((libraryFor settings file).asked s)) ((libraryFor settings file).runOn s).2.cache := by
  have hstep : (step (.libraryOf file) : Attempt LintError _).runOn s =
      (.ok (s.cache.libraryOf file).1, { s with cache := (s.cache.libraryOf file).2 }) := runOn_step _ s
  rw [libraryFor, runOn_bind_ok hstep, asked_bind_ok hstep, asked_step]
  cases hfile : Table.find? s.cache.files file with
  | some adapter =>
    have hlookup : s.cache.libraryOf file =
        (some adapter, { s.cache with libraryHits := s.cache.libraryHits + 1 }) := by
      simp [Cache.libraryOf, hfile]
    rw [hlookup]
    exact .hit hfile
  | none =>
    have hlookup : s.cache.libraryOf file = (none, s.cache) := by simp [Cache.libraryOf, hfile]
    rw [hlookup]
    have hasked : filesRead ((locate settings file).asked s) = [] :=
      filesRead_eq_nil ((asks_locate settings file).asked s)
    obtain ⟨roots, hcache⟩ := (asks_locate settings file).cache_search s
    cases hlocate : (locate settings file).runOn s with
    | mk result s' =>
      have hcache : s'.cache = s.cache.withRoots roots := (congrArg (·.2.cache) hlocate).symm.trans hcache
      cases result with
      | error e =>
        rw [runOn_bind_error hlocate, hcache]
        exact .raised hfile
      | ok found =>
        rw [runOn_bind_ok hlocate, asked_bind_ok hlocate, filesRead_append, filesRead_append, hasked]
        exact adapterAt_ends hfile hcache found.1 found.2 rfl

/-! ## Configurations -/

/-- How the look-up of the configuration of a file ends: what it comes to, and the cache that it leaves. -/
inductive ConfigurationEnd (file : Path) (c : Cache) : Except LintError LoadedConfiguration → Cache → Prop
  | hit {found : LoadedConfiguration} : Table.find? c.configurations file.parent = some found →
      ConfigurationEnd file c (.ok found) { c with configurationHits := c.configurationHits + 1 }
  | loaded {configuration : Configuration} : Table.find? c.configurations file.parent = none →
      ConfigurationEnd file c (.ok (c.keepConfiguration file.parent configuration).1)
        (c.keepConfiguration file.parent configuration).2
  | raised {e : LintError} : Table.find? c.configurations file.parent = none →
      ConfigurationEnd file c (.error e) c

/-- Every look-up of a configuration comes to one of the ends. -/
theorem configurationFor_ends (settings : Settings) (file : Path) (adapter : Adapter) (s : State) :
    ConfigurationEnd file s.cache ((configurationFor settings file adapter).runOn s).1
      ((configurationFor settings file adapter).runOn s).2.cache := by
  have hstep : (step (.configurationOf file.parent) : Attempt LintError _).runOn s =
      (.ok (s.cache.configurationOf file.parent).1,
        { s with cache := (s.cache.configurationOf file.parent).2 }) := runOn_step _ s
  rw [configurationFor, runOn_bind_ok hstep]
  cases hfile : Table.find? s.cache.configurations file.parent with
  | some found =>
    have hlookup : s.cache.configurationOf file.parent =
        (some found, { s.cache with configurationHits := s.cache.configurationHits + 1 }) := by
      simp [Cache.configurationOf, hfile]
    rw [hlookup]
    exact .hit hfile
  | none =>
    have hlookup : s.cache.configurationOf file.parent = (none, s.cache) := by
      simp [Cache.configurationOf, hfile]
    rw [hlookup]
    have hcache := (Configuration.asks_resolve settings adapter.handle file).cache_run s
    cases hresolve : (Configuration.resolve settings adapter.handle file).runOn s with
    | mk result s' =>
      have hcache : s'.cache = s.cache := (congrArg (·.2.cache) hresolve).symm.trans hcache
      cases result with
      | error e =>
        rw [runOn_bind_error hresolve, hcache]
        exact .raised hfile
      | ok configuration =>
        rw [runOn_bind_ok hresolve]
        have hend : ConfigurationEnd file s.cache _ (s.cache.keepConfiguration file.parent configuration).2 :=
          .loaded hfile
        rw [← hcache] at hend ⊢
        exact hend

end LintBridge
