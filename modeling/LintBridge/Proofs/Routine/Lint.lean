-- SUMMARY: The questions that a lint asks.
import LintBridge.Proofs.Routine.Asks
import LintBridge.Service

/-!
# Questions of a lint

A lint looks at the host, starts child processes, uses the cache, and logs. It writes no file, and shows
nothing to the client but what is logged. What it does between two accesses to the cache does not look at
the memory of the service at all.
-/

namespace LintBridge

/-- A question about the host that reads no file, or a record to be logged that the client has not been told
of. A child process is given no input. -/
def Query.Looks : Query → Prop
  | .platform | .environment | .executable _ | .isFile _ | .realPath _ => True
  | .start call => call.input = none
  | .log record => record.told = false
  | _ => False

/-- A question that reads a file, or such a record. -/
def Query.Reads : Query → Prop
  | .platform | .read _ => True
  | .log record => record.told = false
  | _ => False

/-- A question about the host, or such a record. -/
def Query.OfHost : Query → Prop
  | .platform | .environment | .executable _ | .isFile _ | .realPath _ | .read _ | .start _ => True
  | .log record => record.told = false
  | _ => False

/-- A question that the search for a package may ask. -/
def Query.OfSearch : Query → Prop
  | .rootOf _ | .keepRoot .. => True
  | q => q.Looks

/-- A question that the search for the library may ask. -/
def Query.OfLibrary : Query → Prop
  | .libraryOf _ | .packageAt _ | .keepPackage .. | .keepLibrary .. | .rootOf _ | .keepRoot .. => True
  | q => q.OfHost

/-- A question that a lint may ask. -/
def Query.OfLint : Query → Prop
  | .configurationOf _ | .keepConfiguration .. => True
  | q => q.OfLibrary

theorem Query.Looks.ofHost {q : Query} (h : q.Looks) : q.OfHost := by
  cases q with
  | platform | environment | executable | isFile | realPath | start => trivial
  | log record => exact h
  | _ => exact h.elim

theorem Query.Reads.ofHost {q : Query} (h : q.Reads) : q.OfHost := by
  cases q with
  | platform | read => trivial
  | log record => exact h
  | _ => exact h.elim

theorem Query.Looks.ofSearch {q : Query} (h : q.Looks) : q.OfSearch := by
  cases q with
  | rootOf | keepRoot => trivial
  | _ => exact h

theorem Query.OfSearch.ofLibrary {q : Query} (h : q.OfSearch) : q.OfLibrary := by
  cases q with
  | platform | environment | executable | isFile | realPath | start | rootOf | keepRoot => trivial
  | log record => exact h
  | _ => exact h.elim

theorem Query.OfHost.ofLibrary {q : Query} (h : q.OfHost) : q.OfLibrary := by
  cases q with
  | platform | environment | executable | isFile | realPath | read | start => trivial
  | log record => exact h
  | _ => exact h.elim

theorem Query.OfLibrary.ofLint {q : Query} (h : q.OfLibrary) : q.OfLint := by
  cases q with
  | configurationOf | keepConfiguration => trivial
  | _ => exact h

section

variable {ε α : Type}

theorem Routine.Asks.ofHost {r : Routine α} (h : r.Asks Query.Looks) : r.Asks Query.OfHost :=
  h.mono fun _ => Query.Looks.ofHost

theorem Routine.Asks.ofSearch {r : Routine α} (h : r.Asks Query.Looks) : r.Asks Query.OfSearch :=
  h.mono fun _ => Query.Looks.ofSearch

theorem Routine.Asks.ofLibrary {r : Routine α} (h : r.Asks Query.OfHost) : r.Asks Query.OfLibrary :=
  h.mono fun _ => Query.OfHost.ofLibrary

theorem Routine.Asks.ofLint {r : Routine α} (h : r.Asks Query.OfLibrary) : r.Asks Query.OfLint :=
  h.mono fun _ => Query.OfLibrary.ofLint

theorem Attempt.Asks.ofHost {r : Attempt ε α} (h : r.Asks Query.Looks) : r.Asks Query.OfHost :=
  Routine.Asks.ofHost h

theorem Attempt.Asks.ofSearch {r : Attempt ε α} (h : r.Asks Query.Looks) : r.Asks Query.OfSearch :=
  Routine.Asks.ofSearch h

theorem Attempt.Asks.ofLibrary {r : Attempt ε α} (h : r.Asks Query.OfHost) : r.Asks Query.OfLibrary :=
  Routine.Asks.ofLibrary h

theorem Attempt.Asks.ofLint {r : Attempt ε α} (h : r.Asks Query.OfLibrary) : r.Asks Query.OfLint :=
  Routine.Asks.ofLint h

end

open Attempt

theorem Attempt.asks_isFile {ε : Type} {P : Query → Prop} {p : Path} (refused : FileError → ε) (h : P (.isFile p)) :
    (isFile refused p).Asks P := by
  refine asks_bind (asks_step h) fun found => ?_
  cases found with
  | ok found => exact asks_pure _
  | error cause => exact asks_throw _

/-! ## Commands -/

/-- A command looks up its executable and is started once, as it is otherwise given. -/
theorem Command.asks_run {P : Query → Prop} (call : Call) (hplatform : P .platform)
    (hfind : ∀ name, P (.executable name)) (hstart : ∀ argv, P (.start { call with argv })) :
    (Command.run call).Asks P := by
  unfold Command.run
  split
  next => exact asks_throw _
  next word args _ =>
    refine asks_bind ?_ fun executable => ?_
    · unfold findExecutable
      split
      next => exact asks_pure _
      next =>
        refine asks_bind (asks_step (hfind _)) fun found => ?_
        cases found with
        | none => exact asks_throw _
        | some found => exact asks_pure _
    · exact asks_bind (asks_step hplatform) fun platform =>
        asks_bind (asks_step (hstart _)) fun outcome => asks_ofExcept _

/-! ## The library -/

namespace Library

section

variable {P : Query → Prop} (hfile : ∀ p, P (.isFile p)) (hreal : ∀ p, P (.realPath p))

include hfile hreal

/-- Looking for a copy of a package asks what stands at paths, and nothing else. -/
theorem asks_packageIn_of (package : String) (modules : Path) : (packageIn package modules).Asks P := by
  refine asks_bind (asks_isFile _ (hfile _)) fun found => ?_
  split
  next => exact asks_bind (asks_step (hreal _)) fun _ => asks_pure _
  next => exact asks_pure _

theorem asks_searchDirectories_of (package : String) (directories : List Path) :
    (searchDirectories package directories).Asks P := by
  induction directories with
  | nil => exact asks_pure _
  | cons directory rest ih =>
    unfold searchDirectories
    split
    next => exact ih
    next =>
      refine asks_bind (asks_packageIn_of hfile hreal ..) fun found => ?_
      cases found with
      | none => exact ih
      | some found => exact asks_pure _

end

theorem asks_packageIn (package : String) (modules : Path) :
    (packageIn package modules).Asks Query.Looks :=
  asks_packageIn_of (fun _ => trivial) (fun _ => trivial) package modules

theorem asks_searchDirectories (package : String) (directories : List Path) :
    (searchDirectories package directories).Asks Query.Looks :=
  asks_searchDirectories_of (fun _ => trivial) (fun _ => trivial) package directories

theorem asks_ask (manager : String) (args : List String) : (ask manager args).Asks Query.Looks := by
  refine asks_bind (asks_step trivial) fun env => ?_
  refine asks_bind (asks_attempt (Command.asks_run _ trivial (fun _ => trivial) fun _ => rfl)) fun result => ?_
  cases result with
  | ok completed => exact asks_pure _
  | error e =>
    split
    next h => cases h
    next => exact asks_throw _
    next => exact asks_bind (asks_attempt (Routine.asks_logged fun _ h => h)) fun _ => asks_pure _

theorem asks_askNpm : askNpm.Asks Query.Looks := by
  refine asks_bind (asks_ask ..) fun root => ?_
  cases root with
  | some root => exact asks_pure _
  | none =>
    refine asks_bind (asks_ask ..) fun base => ?_
    cases base with
    | none => exact asks_pure _
    | some base => exact asks_pure _

theorem asks_askYarn : askYarn.Asks Query.Looks := by
  refine asks_bind (asks_ask ..) fun base => ?_
  cases base with
  | none => exact asks_pure _
  | some base => exact asks_pure _

theorem asks_searchGlobal (package : String) (source : Source) {question : Attempt LintError (Option Path)}
    (h : question.Asks Query.OfSearch) : (searchGlobal package source question).Asks Query.OfSearch := by
  refine asks_bind ?_ fun root => ?_
  · refine asks_bind (asks_step trivial) fun known => ?_
    cases known with
    | some known => exact asks_pure _
    | none =>
      refine asks_bind h fun root => ?_
      exact asks_bind (asks_step trivial) fun _ => asks_pure _
  · cases root with
    | none => exact asks_pure _
    | some root => exact (asks_packageIn ..).ofSearch

theorem asks_searchSource (settings : Settings) (directory : Path) (source : Source) :
    (searchSource settings directory source).Asks Query.OfSearch := by
  cases source with
  | project => exact (asks_searchDirectories ..).ofSearch
  | npm => exact asks_searchGlobal _ _ asks_askNpm.ofSearch
  | yarn => exact asks_searchGlobal _ _ asks_askYarn.ofSearch

theorem asks_searchSources (settings : Settings) (directory : Path) (sources : List Source) :
    (searchSources settings directory sources).Asks Query.OfSearch := by
  induction sources with
  | nil => exact asks_pure _
  | cons source rest ih =>
    refine asks_bind (asks_searchSource ..) fun found => ?_
    cases found with
    | some found =>
      exact asks_bind (asks_attempt (Routine.asks_logged fun _ h => h)) fun _ => asks_pure _
    | none => exact asks_bind (asks_attempt (Routine.asks_logged fun _ h => h)) fun _ => ih

theorem asks_locate (settings : Settings) (file : Path) : (locate settings file).Asks Query.OfSearch := by
  refine asks_bind (asks_searchSources ..) fun found => ?_
  cases found with
  | none => exact asks_throw _
  | some found => exact asks_pure _

/-- Loading reads the manifest, and starts nothing. -/
theorem asks_reads_load (package : String) (directory : Path) (source : Source) :
    (load package directory source).Asks Query.Reads := by
  refine asks_bind (asks_step trivial) fun platform => ?_
  refine asks_bind ?_ fun manifest => ?_
  · refine asks_bind (asks_step trivial) fun content => ?_
    refine asks_bind (asks_ofExcept _) fun manifest => ?_
    cases manifest with
    | ok members => exact asks_pure _
    | error fault =>
      exact asks_bind (asks_attempt (Routine.asks_logged fun _ h => h)) fun _ => asks_pure _
  · refine asks_bind (asks_ofExcept _) fun handle => ?_
    exact asks_bind (asks_attempt (Routine.asks_logged fun _ h => h)) fun _ => asks_pure _

theorem asks_load (package : String) (directory : Path) (source : Source) :
    (load package directory source).Asks Query.OfHost :=
  (asks_reads_load package directory source).mono fun _ => Query.Reads.ofHost

end Library

/-! ## The bridge -/

namespace Bridge

/-- An exchange starts one child process, and gives it the request. -/
theorem asks_exchangeWith_of {P : Query → Prop} (settings : Settings) (handle : Library.Handle) (action : Action)
    (details : Json.Members) (cwd : Path)
    (hlog : ∀ record : Log.Record, record.told = false → P (.log record)) (hplatform : P .platform)
    (hfind : ∀ name, P (.executable name))
    (hstart : ∀ call : Command.Call, call.input = some (request handle action details).toJson →
      P (.start call)) :
    (exchangeWith settings handle action details cwd).Asks P := by
  refine asks_bind (asks_attempt (Routine.asks_logged hlog)) fun _ => ?_
  refine asks_bind (asks_step hplatform) fun platform => ?_
  exact asks_bind (asks_mapError (Command.asks_run _ hplatform hfind fun _ => hstart _ rfl)) fun _ => asks_ofExcept _

theorem asks_lint (settings : Settings) (handle : Library.Handle) (job : LintJob) :
    (lint settings handle job).Asks Query.OfHost :=
  asks_bind (asks_exchangeWith_of _ _ _ _ _ (fun _ h => h) trivial (fun _ => trivial) fun _ _ => trivial)
    fun _ => asks_ofExcept _

theorem asks_loadConfiguration_of {P : Query → Prop} (settings : Settings) (handle : Library.Handle)
    (file : Path) (hlog : ∀ record : Log.Record, record.told = false → P (.log record)) (hplatform : P .platform)
    (hfind : ∀ name, P (.executable name))
    (hstart : ∀ call : Command.Call,
      call.input = some (request handle .loadConfiguration (loadDetails file)).toJson → P (.start call)) :
    (loadConfiguration settings handle file).Asks P := by
  refine asks_bind (asks_exchangeWith_of _ _ _ _ _ hlog hplatform hfind hstart) fun _ => ?_
  exact asks_bind (asks_ofExcept _) fun _ => asks_pure _

theorem asks_loadConfiguration (settings : Settings) (handle : Library.Handle) (file : Path) :
    (loadConfiguration settings handle file).Asks Query.OfHost :=
  asks_loadConfiguration_of _ _ _ (fun _ h => h) trivial (fun _ => trivial) fun _ _ => trivial

end Bridge

/-! ## The configuration -/

namespace Configuration

theorem asks_searchDirectories (filename : String) (directories : List Path) :
    (searchDirectories filename directories).Asks Query.Looks := by
  induction directories with
  | nil => exact asks_pure _
  | cons directory rest ih =>
    refine asks_bind (asks_isFile _ trivial) fun found => ?_
    split
    next => exact asks_pure _
    next => exact ih

/-- The search for a configuration starts nothing that is given an input. -/
theorem asks_looks_find (settings : Settings) (file : Path) : (find settings file).Asks Query.Looks := by
  refine asks_bind (asks_searchDirectories ..) fun found => ?_
  cases found with
  | none => exact asks_pure _
  | some found => exact asks_bind (asks_attempt (Routine.asks_logged fun _ h => h)) fun _ => asks_pure _

theorem asks_find (settings : Settings) (file : Path) : (find settings file).Asks Query.OfHost :=
  (asks_looks_find settings file).ofHost

theorem asks_resolve_of {P : Query → Prop} (settings : Settings) (handle : Library.Handle) (file : Path)
    (hlooks : ∀ q : Query, q.Looks → P q)
    (hstart : ∀ (call : Command.Call) details,
      call.input = some (Bridge.request handle .loadConfiguration details).toJson → P (.start call)) :
    (resolve settings handle file).Asks P := by
  refine asks_bind ((asks_looks_find ..).mono hlooks) fun found => ?_
  cases found with
  | none => exact asks_throw _
  | some found =>
    exact Bridge.asks_loadConfiguration_of _ _ _ (fun _ h => hlooks _ h) (hlooks _ trivial)
      (fun _ => hlooks _ trivial) fun call => hstart call _

theorem asks_resolve (settings : Settings) (handle : Library.Handle) (file : Path) :
    (resolve settings handle file).Asks Query.OfHost :=
  asks_resolve_of _ _ _ (fun _ => Query.Looks.ofHost) fun _ _ _ => trivial

end Configuration

/-! ## Notifications -/

theorem Service.asks_logChanges (s : Service) (uris : List String) :
    (uris.forM fun uri => Routine.logged .info "service"
      s!"Detect {s.settings.configFilename} file change {uri}").Asks Query.OfHost := by
  induction uris with
  | nil => exact Routine.asks_pure _
  | cons uri rest ih => exact Routine.asks_bind (Routine.asks_logged fun _ h => h) fun _ => ih

/-! ## Look-ups through the cache, and the lint -/

theorem asks_libraryFor (settings : Settings) (file : Path) :
    (libraryFor settings file).Asks Query.OfLibrary := by
  refine asks_bind (asks_step trivial) fun known => ?_
  cases known with
  | some known => exact asks_pure _
  | none =>
    refine asks_bind ((Library.asks_locate ..).mono fun _ => Query.OfSearch.ofLibrary) fun _ => ?_
    refine asks_bind ?_ fun adapter => asks_bind (asks_step trivial) fun _ => asks_pure _
    refine asks_bind (asks_step trivial) fun known => ?_
    cases known with
    | some known => exact asks_pure _
    | none => exact asks_bind (Library.asks_load ..).ofLibrary fun _ => asks_step trivial

theorem asks_configurationFor (settings : Settings) (file : Path) (adapter : Library.Adapter) :
    (configurationFor settings file adapter).Asks Query.OfLint := by
  refine asks_bind (asks_step trivial) fun known => ?_
  cases known with
  | some known => exact asks_pure _
  | none => exact asks_bind (Configuration.asks_resolve ..).ofLibrary.ofLint fun _ => asks_step trivial

/-- A lint asks nothing but the questions of one. -/
theorem Service.asks_failuresOf (s : Service) (file : Path) (document : Document) :
    (s.failuresOf file document).Asks Query.OfLint := by
  refine asks_bind (asks_libraryFor ..).ofLint fun adapter => ?_
  refine asks_bind (asks_configurationFor ..) fun loaded => ?_
  refine asks_bind (Bridge.asks_lint ..).ofLibrary.ofLint fun failures => ?_
  exact asks_bind (asks_attempt (Routine.asks_logged fun _ h => h)) fun _ => asks_pure _

end LintBridge
