-- SUMMARY: What libraries and configurations are found on a host without any cache.
import LintBridge.Cache.Lookup
import LintBridge.Proofs.Configuration.Nearest
import LintBridge.Proofs.Routine.Lint
import LintBridge.Proofs.Routine.RunOn
import LintBridge.Proofs.Routine.Upholds

/-!
# Look-ups without a cache

On a host that stays as it is, a routine that asks the host only comes to the same end whenever it runs.
So what a program finds that has nothing in its memory is a function of the host. It depends on little: a
library on the directory of the file, its description not on the source, and a configuration on the
directory of the file and on the description of the library.
-/

namespace LintBridge

/-- No child process marks a file as changed. -/
def Host.Still (h : Host) : Prop := ∀ call, (h.replies call).touched = none

/-- A program that begins on a host, with nothing in its memory. -/
def Host.fresh (h : Host) : State := { host := h }

/-! ## Questions about the host -/

variable {α ε : Type} {q : Query} {s s' : State} {h : Host}

theorem State.cache_log (s : State) (record : Log.Record) : (s.log record).cache = s.cache :=
  State.log_keeps (I := fun s s' => s'.cache = s.cache) (fun _ => rfl) (fun _ _ _ h h' => h'.trans h)
    (fun _ _ => rfl) (fun _ _ => rfl) (fun _ _ => rfl) s record

theorem Host.Still.start (h : s.host.Still) (call : Command.Call) : (s.host.start call).2 = s.host := by
  simp [Host.start, h call]

namespace Query

/-- Questions of a lint leave a still host as it is. -/
theorem OfLint.host_answer (hq : q.OfLint) (hstill : s.host.Still) : (q.answer s).2.host = s.host := by
  cases q with
  | start call => exact hstill.start call
  | log record => exact s.host_log record
  | libraryOf | packageAt | keepPackage | keepLibrary | configurationOf | keepConfiguration => rfl
  | platform | environment | executable | isFile | realPath | read | rootOf | keepRoot => rfl
  | _ => exact hq.elim

/-- Questions about the host leave the cache as it is. -/
theorem OfHost.cache_answer (hq : q.OfHost) (s : State) : (q.answer s).2.cache = s.cache := by
  cases q with
  | log record => exact s.cache_log record
  | platform | environment | executable | isFile | realPath | read | start => rfl
  | _ => exact hq.elim

/-- Questions about the host have one answer on one host. -/
theorem OfHost.answer_eq (hq : q.OfHost) (hhost : s.host = s'.host) : (q.answer s).1 = (q.answer s').1 := by
  cases q with
  | platform | environment | executable | isFile | realPath | read | start => simp [answer, hhost]
  | log record => rfl
  | _ => exact hq.elim

end Query

/-- A routine of a lint leaves a still host as it is. -/
theorem Routine.Asks.host_run {r : Routine α} (hr : r.Asks Query.OfLint) (hstill : s.host.Still) :
    (r.run s).2.host = s.host := by
  have hkept := hr.upholds (A := (·.host = s.host)) (G := fun _ s' => s'.host = s.host)
    (fun q s' hq hs' => by rw [hq.host_answer (hs'.symm ▸ hstill), hs'])
  exact (hkept.run (fun _ _ _ hs' => hs') rfl).2

/-- A routine that asks a still host only ends as it ends anywhere on that host, and leaves the cache. -/
theorem Routine.Asks.settled {r : Routine α} (hr : r.Asks Query.OfHost) (hstill : h.Still)
    (hs : s.host = h) :
    r.Upholds (·.host = h) (fun s s' => s'.host = h ∧ s'.cache = s.cache) (· = (r.run s).1) := by
  induction r generalizing s with
  | done a => exact upholds_done_iff.2 rfl
  | ask q next ih =>
    refine upholds_ask_iff.2 fun s' hs' => ?_
    have hanswer : (q.answer s').1 = (q.answer s).1 := hr.1.answer_eq (hs'.trans hs.symm)
    have hquery : q.OfLint := hr.1.ofLibrary.ofLint
    have hkept (s : State) (hs : s.host = h) : (q.answer s).2.host = h :=
      (hquery.host_answer (hs.symm ▸ hstill)).trans hs
    refine ⟨⟨hkept s' hs', hr.1.cache_answer s'⟩, ?_⟩
    rw [hanswer]
    exact ih _ (hr.2 _) (hkept s hs)

theorem Routine.Asks.run_eq {r : Routine α} (hr : r.Asks Query.OfHost) (hstill : h.Still)
    (hs : s.host = h) (hs' : s'.host = h) : (r.run s).1 = (r.run s').1 :=
  ((hr.settled hstill hs').run (fun _ _ _ hkept => hkept.1) hs).1

/-! ## Libraries -/

namespace Library

/-- What a handle says of the library itself, through whatever source it was found. -/
structure Description where
  path : Path
  entryPoint : Path
  version : Option String
  generation : Generation
  deriving DecidableEq, Repr

def Handle.description (handle : Handle) : Description :=
  ⟨handle.path, handle.entryPoint, handle.version, handle.generation⟩

/-- The library that is found for a file without a cache. -/
def uncached (settings : Settings) (h : Host) (file : Path) : Except LintError Handle :=
  ((resolve settings file).runOn h.fresh).1

/-- What is loaded from a package directory without a cache. -/
def loaded (settings : Settings) (h : Host) (directory : Path) (source : Source) : Except LintError Handle :=
  ((load settings.packageName directory source).runOn h.fresh).1

/-- Where a library is found from a directory without a cache. -/
def located (settings : Settings) (h : Host) (directory : Path) : Except LintError (Option (Path × Source)) :=
  ((searchSources settings directory [.project, .npm, .yarn]).runOn h.fresh).1

theorem uncached_eq (settings : Settings) (hstill : h.Still) (file : Path) :
    uncached settings h file = (do
      match ← located settings h file.parent with
      | some (directory, source) => loaded settings h directory source
      | none => .error (.noLibrary settings.packageName file)) := by
  have hhost : ((searchSources settings file.parent [.project, .npm, .yarn]).runOn h.fresh).2.host = h :=
    ((asks_searchSources ..).mono fun _ => Query.OfSearch.ofLibrary).ofLint.host_run (s := h.fresh) hstill
  rw [uncached, resolve, Attempt.runOn_bind, locate, Attempt.runOn_bind, located]
  cases hfound : (searchSources settings file.parent [.project, .npm, .yarn]).runOn h.fresh with
  | mk found s =>
    rw [hfound] at hhost
    cases found with
    | error e => rfl
    | ok found =>
      cases found with
      | none => rfl
      | some found => exact (asks_load ..).run_eq hstill hhost rfl

/-- Files of one directory have one library. -/
theorem uncached_sibling {settings : Settings} (hstill : h.Still) {file file' : Path}
    (hparent : file.parent = file'.parent) {handle : Handle} (hfound : uncached settings h file = .ok handle) :
    uncached settings h file' = .ok handle := by
  rw [uncached_eq settings hstill, hparent] at hfound
  rw [uncached_eq settings hstill]
  cases hlocated : located settings h file'.parent with
  | error e =>
    rw [hlocated] at hfound
    cases hfound
  | ok found =>
    rw [hlocated] at hfound
    cases found with
    | none => cases hfound
    | some found => exact hfound

theorem description_ofManifest (rule : Version.CaseRule) (directory : Path) (source source' : Source)
    (manifest : Json.Members) :
    (Handle.ofManifest rule directory source manifest).map Handle.description =
      (Handle.ofManifest rule directory source' manifest).map Handle.description := by
  simp only [Handle.ofManifest, bind, Except.bind]
  cases hversion : Version.normalize rule ((declaredVersion? manifest).getD "") with
  | error e => rfl
  | ok version =>
    cases hgeneration : Generation.ofVersion rule (version.or (declaredVersion? manifest)) with
    | error e => simp [hgeneration, Except.map]
    | ok generation => simp [hgeneration, Except.map, pure, Except.pure, Handle.description]

theorem loaded_eq (settings : Settings) (h : Host) (directory : Path) (source : Source) :
    loaded settings h directory source = (do
      let manifest ← ((readManifest h.platform.jsonDepth directory).runOn h.fresh).1
      (Handle.ofManifest h.platform.caseRule directory source manifest).mapError (.beyondLimit <| .digits ·)) := by
  rw [loaded, load, Attempt.runOn_platform_bind]
  change Prod.fst (Attempt.runOn (readManifest h.platform.jsonDepth directory >>= _) _) = _
  cases hmanifest : (readManifest h.platform.jsonDepth directory).runOn h.fresh with
  | mk manifest s =>
    cases manifest with
    | error e =>
      rw [Attempt.runOn_bind_error hmanifest]
      rfl
    | ok manifest =>
      rw [Attempt.runOn_bind_ok hmanifest, Attempt.runOn_bind, Attempt.runOn_ofExcept]
      change _ = (Handle.ofManifest h.platform.caseRule directory source manifest).mapError _
      simp only [Host.fresh]
      cases Handle.ofManifest h.platform.caseRule directory source manifest with
      | error e => rfl
      | ok handle => rfl

/-- A library is the same through every source. -/
theorem description_loaded (settings : Settings) (h : Host) (directory : Path) (source source' : Source) :
    (loaded settings h directory source).map Handle.description =
      (loaded settings h directory source').map Handle.description := by
  rw [loaded_eq, loaded_eq]
  cases ((readManifest h.platform.jsonDepth directory).runOn h.fresh).1 with
  | error e => rfl
  | ok manifest =>
    have hmap (x : Except Decimal.TooManyDigits Handle) (f : Decimal.TooManyDigits → LintError) :
        (x.mapError f).map Handle.description = (x.map Handle.description).mapError f := by
      cases x with
      | error e => rfl
      | ok handle => rfl
    change (Except.mapError _ _).map _ = (Except.mapError _ _).map _
    rw [hmap, hmap, description_ofManifest _ directory source source']

end Library

/-! ## Configurations -/

namespace Configuration

open Library

/-- The configuration that is found for a file, and loaded by a library, without a cache. -/
def uncached (settings : Settings) (h : Host) (handle : Handle) (file : Path) :
    Except LintError Configuration := ((resolve settings handle file).runOn h.fresh).1

/-- The configuration file that is found from a directory without a cache. -/
def located (settings : Settings) (h : Host) (directory : Path) : Except LintError (Option Path) :=
  ((searchDirectories settings.configFilename (directory.ancestors (some settings.maxAscent))).runOn h.fresh).1

/-- What a library loads from a configuration file without a cache. -/
def loaded (settings : Settings) (h : Host) (handle : Handle) (file : Path) : Except LintError Configuration :=
  ((Bridge.loadConfiguration settings handle file).runOn h.fresh).1

theorem uncached_eq (settings : Settings) (hstill : h.Still) (handle : Handle) (file : Path) :
    uncached settings h handle file = (do
      match ← located settings h file.parent with
      | some found => loaded settings h handle found
      | none => .error (.noConfiguration settings.configFilename file)) := by
  have hhost : ((find settings file).runOn h.fresh).2.host = h :=
    (asks_find ..).ofLibrary.ofLint.host_run (s := h.fresh) hstill
  have hfind : ((find settings file).runOn h.fresh).1 = located settings h file.parent := by
    rw [find, Attempt.runOn_bind, located]
    cases (searchDirectories settings.configFilename
      (file.parent.ancestors (some settings.maxAscent))).runOn h.fresh with
    | mk result s =>
      cases result with
      | error e => rfl
      | ok found =>
        cases found with
        | none => rfl
        | some found => rfl
  rw [uncached, resolve, Attempt.runOn_bind, ← hfind]
  cases hrun : (find settings file).runOn h.fresh with
  | mk result s =>
    rw [hrun] at hhost
    cases result with
    | error e => rfl
    | ok found =>
      cases found with
      | none => rfl
      | some found => exact (Bridge.asks_loadConfiguration ..).run_eq hstill hhost rfl

theorem loadConfiguration_eq (settings : Settings) {handle handle' : Handle}
    (hsame : handle.description = handle'.description) (file : Path) :
    Bridge.loadConfiguration settings handle file = Bridge.loadConfiguration settings handle' file := by
  obtain ⟨path, _, _, _, generation⟩ := handle
  obtain ⟨path', _, _, _, generation'⟩ := handle'
  simp only [Handle.description, Description.mk.injEq] at hsame
  obtain ⟨rfl, -, -, rfl⟩ := hsame
  rfl

/-- Files of one directory have one configuration, through one library. -/
theorem uncached_sibling {settings : Settings} (hstill : h.Still) {handle handle' : Handle}
    (hsame : handle.description = handle'.description) {file file' : Path}
    (hparent : file.parent = file'.parent) {configuration : Configuration}
    (hfound : uncached settings h handle file = .ok configuration) :
    uncached settings h handle' file' = .ok configuration := by
  rw [uncached_eq settings hstill, hparent] at hfound
  rw [uncached_eq settings hstill]
  cases hlocated : located settings h file'.parent with
  | error e =>
    rw [hlocated] at hfound
    cases hfound
  | ok found =>
    rw [hlocated] at hfound
    cases found with
    | none => cases hfound
    | some found =>
      have hfound : loaded settings h handle found = .ok configuration := hfound
      rwa [loaded, loadConfiguration_eq settings hsame] at hfound

end Configuration

end LintBridge
