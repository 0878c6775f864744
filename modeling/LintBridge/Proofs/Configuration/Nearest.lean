-- SUMMARY: Which configuration file governs a document, and when none does.
import LintBridge.Proofs.Routine.Sought
import LintBridge.Proofs.Service.Errors

/-!
# The nearest configuration

Of the directories above a document, as many as the search may look into, the first one with a configuration file
governs it. Without one there is no configuration, and a request for it is refused for that and only then. A
look-up that the system refuses ends the search before it comes to anything.
-/

namespace LintBridge.Configuration

open Library LintBridge.Path

/-! ## The search -/

/-- The directories above a document that are looked into for its configuration. -/
def searched (settings : Settings) (file : Path) : List Path := file.parent.chain.take settings.maxAscent

/-- The files that may govern a document, the nearest first. A file name that begins at the root stands for
itself in every directory. -/
def candidates (settings : Settings) (file : Path) : List Path :=
  (searched settings file).map (·.child settings.configFilename)

variable (settings : Settings) (file : Path) (s : State)

/-- The search comes to the first file that there is, and changes nothing. -/
theorem runOn_searchDirectories (filename : String) (directories : List Path) :
    ∃ result, (searchDirectories filename directories).runOn s = (result, s) ∧
      s.host.Sought id (directories.map (·.child filename)) result := by
  induction directories with
  | nil => exact ⟨_, rfl, Host.sought_nil⟩
  | cons directory rest ih =>
    let candidate := directory.child filename
    have hlook := Attempt.runOn_isFile (LintError.unsearchable candidate) candidate s
    cases hfile : s.host.isFile candidate with
    | error cause =>
      rw [hfile] at hlook
      have hsought : s.host.Sought id (candidate :: rest.map (·.child filename)) _ := Host.sought_cons_of_error hfile
      exact ⟨_, Attempt.runOn_bind_error hlook, hsought⟩
    | ok found =>
      rw [hfile] at hlook
      rw [searchDirectories, Attempt.runOn_bind_ok hlook]
      cases found with
      | true => exact ⟨_, rfl, Host.sought_cons_of_true hfile⟩
      | false =>
        obtain ⟨result, hrun, hsought⟩ := ih
        exact ⟨result, hrun, hsought.cons hfile⟩

/-- What governs a document is found among the files of the directories above it. -/
theorem sought_find : s.host.Sought id (candidates settings file) ((find settings file).runOn s).1 := by
  obtain ⟨result, hrun, hsought⟩ := runOn_searchDirectories s settings.configFilename (searched settings file)
  have hdirectories : file.parent.ancestors (some settings.maxAscent) = searched settings file :=
    ancestors_eq settings.maxAscent file.parent
  rw [find, hdirectories]
  cases result with
  | error e =>
    rw [Attempt.runOn_bind_error hrun]
    exact hsought
  | ok found =>
    rw [Attempt.runOn_bind_ok hrun]
    cases found with
    | none => exact hsought
    | some found => exact hsought

/-- A request is refused for want of a configuration file exactly when none is found. -/
theorem resolve_eq_noConfiguration_iff (handle : Handle) (filename : String) (file' : Path) :
    ((resolve settings handle file).runOn s).1 = .error (.noConfiguration filename file') ↔
      (filename = settings.configFilename ∧ file' = file) ∧ ((find settings file).runOn s).1 = .ok none := by
  have hsought := sought_find settings file s
  cases hfind : (find settings file).runOn s with
  | mk result s' =>
    rw [hfind] at hsought
    cases result with
    | error e =>
      rw [resolve, Attempt.runOn_bind_error hfind]
      cases hsought with
      | refused => simp
    | ok found =>
      rw [resolve, Attempt.runOn_bind_ok hfind]
      cases found with
      | none =>
        constructor
        · rintro ⟨⟩
          exact ⟨⟨rfl, rfl⟩, rfl⟩
        · rintro ⟨⟨rfl, rfl⟩, -⟩
          rfl
      | some found =>
        -- Loading the file that was found fails in the ways of the library only.
        have hraises : ((Bridge.loadConfiguration settings handle found).runOn s').1 ≠
            .error (.noConfiguration filename file') := by
          intro h
          cases Bridge.raises_loadConfiguration _ _ _ _ _ h with
          | stray hstray => cases hstray
        simpa using hraises

/-- The directories above a path are met once each, from the nearest to the top and as many as a limit allows. Of
the files in those above a document that may be looked into, the first that there is governs the document; a
configuration is refused as missing exactly when there is none of them. -/
theorem governed_by_nearest (start : Path) :
    (Climbs start start.chain ∧ start.chain.Nodup ∧
      (∃ top, start.chain.getLast? = some top ∧ top.parent = top ∧
        (top.text = "/" ∨ top.text = "//" ∨ top.text = ".")) ∧
      ∀ limit, start.ancestors limit = upTo limit start.chain) ∧
    (∀ result, ((find settings file).runOn s).1 = result ↔
      s.host.Sought id (candidates settings file) result) ∧
    ∀ handle filename file',
      ((resolve settings handle file).runOn s).1 = .error (.noConfiguration filename file') ↔
        (filename = settings.configFilename ∧ file' = file) ∧
          ∀ candidate ∈ candidates settings file, s.host.isFile candidate = .ok false := by
  have hclimbs : Climbs start start.chain := climbs_iff.2 rfl
  have hsought := sought_find settings file s
  have hfind (result : Except LintError (Option Path)) : ((find settings file).runOn s).1 = result ↔
      s.host.Sought id (candidates settings file) result :=
    ⟨fun h => h ▸ hsought, hsought.unique⟩
  refine ⟨⟨hclimbs, hclimbs.nodup, hclimbs.top_text, fun limit => ancestors_eq_upTo limit start⟩, hfind, ?_⟩
  intro handle filename file'
  rw [resolve_eq_noConfiguration_iff, hfind, Host.sought_none_iff]
  rfl

/-! ## Files that are not below a directory -/

/-- A host with one configuration file, that refuses to look up paths in a private directory. -/
def guardedHost : Host where
  files := ⟨[(["etc"], .directory), (["etc", "tslint.json"], .file (some []) 1), (["p"], .directory)], []⟩
  environment := []
  executables := []
  replies := fun _ => { outcome := .refused "" }
  refusals p := if p.names.head? = some "private" then some .denied else none

/-- Settings whose configuration file is in one place for all documents. -/
def rootedSettings : Settings := { configFilename := "/etc/tslint.json", maxAscent := 1 }

/-- Not every file that governs a document is below a directory above it: a file name that begins at the root is
found although nothing is at its place below any of the directories. Nor is there always an answer: a look-up
that the system refuses ends the search. -/
theorem governed_from_outside :
    ((find rootedSettings ⟨.root, ["p", "a.ts"]⟩).runOn { host := guardedHost }).1.toOption =
        some (some ⟨.root, ["etc", "tslint.json"]⟩) ∧
      (∀ directory ∈ searched rootedSettings ⟨.root, ["p", "a.ts"]⟩,
        guardedHost.files.isFile (.ofString (directory.text ++ "/" ++ rootedSettings.configFilename)) = false) ∧
      ((find {} ⟨.root, ["private", "a.ts"]⟩).runOn { host := guardedHost }).1.toOption = none := by
  have hsearched : searched rootedSettings ⟨.root, ["p", "a.ts"]⟩ = [⟨.root, ["p"]⟩] :=
    (ancestors_eq rootedSettings.maxAscent _).symm.trans (by decide +kernel)
  rw [hsearched, List.forall_mem_singleton]
  decide +kernel

end LintBridge.Configuration
