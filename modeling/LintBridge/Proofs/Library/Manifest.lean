-- SUMMARY: What a manifest counts as, what its library is loaded as, and which manifests are let out as errors.
import LintBridge.Proofs.Library.Located
import LintBridge.Proofs.Service.Errors
import LintBridge.Proofs.Version.Basic

/-!
# Loaded libraries

A manifest that cannot be opened or parsed, or is no object, counts as an empty one, and a version or an entry
point that is no text counts as absent. Three kinds of manifests are not taken care of in this way: one that is
not UTF-8, one beyond a limit of the reader, and one that declares a version with a number of too many digits.
These fail the request.
-/

namespace LintBridge.Library

open Json

/-! ## Manifests -/

/-- The members that the content of a manifest counts as, with a reader that is left `depth` lists and objects within
each other. -/
inductive CountsAs (depth : Nat) : Except FileError Bytes → Members → Prop
  | unopened {cause : FileError} : cause ≠ .nulCharacter → CountsAs depth (.error cause) []
  | unparsed {bytes : Bytes} {text : List Char} {place : FaultPlace} :
      Text.Utf8.decode? bytes = some text → Json.read depth (Text.unifyNewlines text) = .error (.malformed place) →
      CountsAs depth (.ok bytes) []
  | noObject {bytes : Bytes} {text : List Char} {value : Value} :
      Text.Utf8.decode? bytes = some text → Json.read depth (Text.unifyNewlines text) = .ok value →
      (∀ members, value ≠ .object members) → CountsAs depth (.ok bytes) []
  | object {bytes : Bytes} {text : List Char} {members : Members} :
      Text.Utf8.decode? bytes = some text → Json.read depth (Text.unifyNewlines text) = .ok (.object members) →
      CountsAs depth (.ok bytes) members

/-- The errors of a content that counts as nothing. -/
inductive Refuses (depth : Nat) : Except FileError Bytes → LintError → Prop
  | notUtf8 {bytes : Bytes} : Text.Utf8.decode? bytes = none → Refuses depth (.ok bytes) .notUtf8
  | beyond {bytes : Bytes} {text : List Char} {limit : Limit} : Text.Utf8.decode? bytes = some text →
      Json.read depth (Text.unifyNewlines text) = .error (.beyond limit) →
      Refuses depth (.ok bytes) (.beyondLimit limit)

variable {depth : Nat} {content : Except FileError Bytes}

theorem countsAs_or_refuses (hopened : content ≠ .error .nulCharacter) :
    (∃ manifest, CountsAs depth content manifest) ∨ ∃ e, Refuses depth content e := by
  cases content with
  | error cause => exact .inl ⟨[], .unopened fun h => hopened (congrArg _ h)⟩
  | ok bytes =>
    cases hdecode : Text.Utf8.decode? bytes with
    | none => exact .inr ⟨_, .notUtf8 hdecode⟩
    | some text =>
      cases hread : Json.read depth (Text.unifyNewlines text) with
      | error e =>
        cases e with
        | malformed place => exact .inl ⟨[], .unparsed hdecode hread⟩
        | beyond limit => exact .inr ⟨_, .beyond hdecode hread⟩
      | ok value =>
        cases value with
        | object members => exact .inl ⟨members, .object hdecode hread⟩
        | _ => exact .inl ⟨[], .noObject hdecode hread fun members h => nomatch h⟩

theorem manifestOf_of_countsAs (file : Path) {manifest : Members} (h : CountsAs depth content manifest) :
    manifestOf depth file content = .ok (.ok manifest) ∨
      manifest = [] ∧ ∃ fault, manifestOf depth file content = .ok (.error fault) := by
  cases h with
  | @unopened cause hcause =>
    refine .inr ⟨rfl, .unopened file cause, ?_⟩
    cases cause with
    | nulCharacter => exact absurd rfl hcause
    | _ => rfl
  | @unparsed bytes text place hdecode hread =>
    refine .inr ⟨rfl, .unreadable place, ?_⟩
    simp only [manifestOf, hdecode, manifestOfText, hread]
  | @noObject bytes text value hdecode hread hvalue =>
    refine .inl ?_
    cases value with
    | object members => exact absurd rfl (hvalue members)
    | _ => simp only [manifestOf, hdecode, manifestOfText, hread]
  | object hdecode hread => exact .inl (by simp only [manifestOf, hdecode, manifestOfText, hread])

theorem manifestOf_of_refuses (file : Path) {e : LintError} (h : Refuses depth content e) :
    manifestOf depth file content = .error e := by
  cases h with
  | notUtf8 hdecode => simp [manifestOf, hdecode]
  | beyond hdecode hread => simp [manifestOf, hdecode, manifestOfText, hread]

/-- A content counts as one manifest. -/
theorem CountsAs.unique {manifest manifest' : Members} (h : CountsAs depth content manifest)
    (h' : CountsAs depth content manifest') : manifest = manifest' := by
  let file : Path := ⟨.here, []⟩
  rcases manifestOf_of_countsAs file h with hread | ⟨rfl, fault, hread⟩
  · rcases manifestOf_of_countsAs file h' with hread' | ⟨-, fault', hread'⟩
    · cases hread.symm.trans hread'
      rfl
    · cases hread.symm.trans hread'
  · rcases manifestOf_of_countsAs file h' with hread' | ⟨rfl, -⟩
    · cases hread.symm.trans hread'
    · rfl

theorem CountsAs.not_refuses {manifest : Members} (h : CountsAs depth content manifest) {e : LintError} :
    ¬Refuses depth content e := by
  intro hrefuses
  let file : Path := ⟨.here, []⟩
  have hread := manifestOf_of_refuses file hrefuses
  rcases manifestOf_of_countsAs file h with hread' | ⟨-, fault, hread'⟩
  · cases hread.symm.trans hread'
  · cases hread.symm.trans hread'

/-! ## Loading -/

open Attempt

variable {directory : Path} {s : State} {rule : Version.CaseRule}

/-- A manifest is read as what its content counts as. -/
theorem readManifest_of_countsAs {manifest : Members}
    (h : CountsAs depth (s.host.files.read (directory.child manifestName)) manifest) :
    ∃ s', (readManifest depth directory).runOn s = (.ok manifest, s') := by
  let file := directory.child manifestName
  rw [readManifest, runOn_step_bind]
  rcases manifestOf_of_countsAs file h with hread | ⟨rfl, fault, hread⟩
  · have hread : (ofExcept (manifestOf depth file (s.host.files.read file))).runOn s = (.ok (.ok manifest), s) := by
      rw [runOn_ofExcept, hread]
    exact ⟨s, runOn_bind_ok hread⟩
  · have hread : (ofExcept (manifestOf depth file (s.host.files.read file))).runOn s = (.ok (.error fault), s) := by
      rw [runOn_ofExcept, hread]
    exact ⟨_, (runOn_bind_ok hread).trans (runOn_bind_ok (runOn_attempt _ s))⟩

theorem load_of_countsAs (package : String) (source : Source) {manifest : Members}
    (h : CountsAs s.host.platform.jsonDepth (s.host.files.read (directory.child manifestName)) manifest) :
    ((load package directory source).runOn s).1 =
      (Handle.ofManifest s.host.platform.caseRule directory source manifest).mapError
        (.beyondLimit <| .digits ·) := by
  obtain ⟨s', hmanifest⟩ := readManifest_of_countsAs h
  rw [load, runOn_platform_bind, runOn_bind_ok hmanifest, runOn_bind, runOn_ofExcept]
  cases Handle.ofManifest s.host.platform.caseRule directory source manifest with
  | error e => rfl
  | ok handle => rfl

theorem load_of_refuses (package : String) (source : Source) {e : LintError}
    (h : Refuses s.host.platform.jsonDepth (s.host.files.read (directory.child manifestName)) e) :
    ((load package directory source).runOn s).1 = .error e := by
  have hmanifest : (ofExcept (manifestOf s.host.platform.jsonDepth (directory.child manifestName)
      (s.host.files.read (directory.child manifestName)))).runOn s = (.error e, s) := by
    rw [runOn_ofExcept, manifestOf_of_refuses _ h]
  have hread : (readManifest s.host.platform.jsonDepth directory).runOn s = (.error e, s) := by
    rw [readManifest, runOn_step_bind]
    exact runOn_bind_error hmanifest
  rw [load, runOn_platform_bind, runOn_bind_error hread]

/-! ## What is loaded -/

/-- The version that a manifest declares is text other than blanks. -/
def Declares (manifest : Members) (declared : String) : Prop :=
  ∃ raw, member? manifest "version" = some (.text raw) ∧ (∃ c ∈ raw.shown.toList, ¬Text.isBlank c) ∧
    declared = String.ofList (Text.trim Text.isBlank raw.shown.toList)

theorem declaredVersion_eq_some_iff {manifest : Members} {declared : String} :
    declaredVersion? manifest = some declared ↔ Declares manifest declared := by
  unfold declaredVersion? Declares
  split
  next raw hraw =>
    have hblank : (Text.trim Text.isBlank raw.shown.toList).isEmpty ↔ ∀ c ∈ raw.shown.toList, Text.isBlank c := by
      rw [List.isEmpty_iff, Text.trim_eq_nil_iff]
    dsimp only
    split
    next hempty =>
      simp only [reduceCtorEq, false_iff]
      rintro ⟨raw', hraw', ⟨c, hc, hnot⟩, -⟩
      cases hraw.symm.trans hraw'
      exact hnot (hblank.1 hempty c hc)
    next hempty =>
      have hsome : ∃ c ∈ raw.shown.toList, ¬Text.isBlank c := by simpa using mt hblank.2 hempty
      simp only [Option.some.injEq]
      constructor
      · rintro rfl
        exact ⟨raw, hraw, hsome, rfl⟩
      · rintro ⟨raw', hraw', -, rfl⟩
        cases hraw.symm.trans hraw'
        rfl
  next hno =>
    simp only [reduceCtorEq, false_iff]
    rintro ⟨raw, hraw, -⟩
    exact hno raw hraw

/-- A declared version has a number of too many digits: in the version text in it, or if that is no version,
anywhere. -/
inductive Overlong (rule : Version.CaseRule) (declared : String) (limit : Decimal.TooManyDigits) : Prop
  | candidate : Version.ofText rule (Version.candidate declared.toList) = .error limit → Overlong rule declared limit
  | whole : Version.ofText rule (Version.candidate declared.toList) = .ok none →
      Version.ofText rule declared.toList = .error limit → Overlong rule declared limit

/-- A handle says what a manifest says of its package. A version or an entry point that is no text, or an
empty one, counts as absent. -/
structure Handle.Describes (handle : Handle) (directory : Path) (source : Source) (manifest : Members) :
    Prop where
  path : handle.path = directory
  source : handle.source = source
  entryPoint : ∀ main : String, member? manifest "main" = some (.text main) → main ≠ "" →
    handle.entryPoint = directory.child main
  noEntryPoint : (∀ main, member? manifest "main" = some (.text main) → main = []) →
    handle.entryPoint = directory.child defaultEntryPoint
  noVersion : (∀ declared, ¬Declares manifest declared) → handle.version = none ∧ handle.generation = .legacy

theorem entryName_of_main {manifest : Members} {main : String}
    (hmain : member? manifest "main" = some (.text main)) (hne : main ≠ "") : entryName manifest = main := by
  have hempty : (Text.Codes.ofString main).isEmpty = false := by
    rw [List.isEmpty_eq_false_iff, Text.Codes.ofString, Text.Codes.ofChars, ne_eq, List.map_eq_nil_iff]
    simpa using hne
  rw [entryName, hmain]
  simp [hempty]

theorem entryName_of_noMain {manifest : Members}
    (hmain : ∀ main, member? manifest "main" = some (.text main) → main = []) :
    entryName manifest = defaultEntryPoint := by
  unfold entryName
  split
  next main h => simp [hmain main h]
  next => rfl

/-- The handle of a package whose version and generation are known. -/
def handleOf (directory : Path) (source : Source) (manifest : Members) (version : Option String)
    (generation : Generation) : Handle :=
  { path := directory, entryPoint := directory.child (entryName manifest), version, source, generation }

theorem ofManifest_of_noVersion (directory : Path) (source : Source) {manifest : Members}
    (h : ∀ declared, ¬Declares manifest declared) :
    Handle.ofManifest rule directory source manifest = .ok (handleOf directory source manifest none .legacy) := by
  have hnone : declaredVersion? manifest = none :=
    Option.eq_none_iff_forall_ne_some.2 fun declared hsome => h declared (declaredVersion_eq_some_iff.1 hsome)
  rw [Handle.ofManifest, hnone]
  cases rule with
  | ascii => rfl
  | unicode => rfl

theorem ofManifest_of_declares (directory : Path) (source : Source) {manifest : Members} {declared : String}
    (h : Declares manifest declared) :
    Handle.ofManifest rule directory source manifest = do
      let version ← Version.normalize rule declared
      let generation ← Generation.ofVersion rule (version.or (some declared))
      return handleOf directory source manifest version generation := by
  rw [Handle.ofManifest, declaredVersion_eq_some_iff.2 h]
  rfl

/-- A declared version without blanks around it is not empty. -/
theorem Declares.ne_empty {manifest : Members} {declared : String} (h : Declares manifest declared) :
    declared ≠ "" := by
  obtain ⟨raw, -, ⟨c, hc, hblank⟩, rfl⟩ := h
  intro hempty
  have htrim : Text.trim Text.isBlank raw.shown.toList = [] := by simpa using congrArg String.toList hempty
  exact hblank (Text.trim_eq_nil_iff.1 htrim c hc)

theorem Declares.unique {manifest : Members} {declared declared' : String} (h : Declares manifest declared)
    (h' : Declares manifest declared') : declared = declared' :=
  Option.some.inj ((declaredVersion_eq_some_iff.2 h).symm.trans (declaredVersion_eq_some_iff.2 h'))

/-- The candidate in a declared version is what the handle has as its version. -/
theorem ofManifest_of_candidate (directory : Path) (source : Source) {manifest : Members} {declared : String}
    (h : Declares manifest declared) {v : Version}
    (hfound : Version.ofText rule (Version.candidate declared.toList) = .ok (some v)) :
    Handle.ofManifest rule directory source manifest = .ok (handleOf directory source manifest
      (some (String.ofList (Version.candidate declared.toList))) (.ofReading (some v))) := by
  have hne : String.ofList (Version.candidate declared.toList) ≠ "" := by
    intro hempty
    have hnil : Version.candidate declared.toList = [] := by simpa using congrArg String.toList hempty
    rw [hnil] at hfound
    cases hfound
  have hnormalize :
      Version.normalize rule declared = .ok (some (String.ofList (Version.candidate declared.toList))) := by
    rw [Version.normalize_eq h.ne_empty, hfound]
    rfl
  have hgeneration : Generation.ofVersion rule (some (String.ofList (Version.candidate declared.toList))) =
      .ok (.ofReading (some v)) := by
    rw [Generation.ofVersion_eq hne, String.toList_ofList, hfound]
    rfl
  simp only [ofManifest_of_declares directory source h, hnormalize, bind, Except.bind, Option.some_or,
    hgeneration, pure, Except.pure]

/-- A declared version whose candidate is no version is classified as a whole. -/
theorem ofManifest_of_noCandidate (directory : Path) (source : Source) {manifest : Members}
    {declared : String} (h : Declares manifest declared)
    (hfound : Version.ofText rule (Version.candidate declared.toList) = .ok none) :
    Handle.ofManifest rule directory source manifest = (Version.ofText rule declared.toList).map fun v =>
      handleOf directory source manifest none (.ofReading v) := by
  have hnormalize : Version.normalize rule declared = .ok none := by
    rw [Version.normalize_eq h.ne_empty, hfound]
    rfl
  simp only [ofManifest_of_declares directory source h, hnormalize, bind, Except.bind, Option.none_or,
    Generation.ofVersion_eq h.ne_empty]
  cases Version.ofText rule declared.toList with
  | error limit => rfl
  | ok v => rfl

theorem describes_handleOf (directory : Path) (source : Source) {manifest : Members}
    {version : Option String} {generation : Generation}
    (hnone : (∀ declared, ¬Declares manifest declared) → version = none ∧ generation = .legacy) :
    (handleOf directory source manifest version generation).Describes directory source manifest where
  path := rfl
  source := rfl
  entryPoint main hmain hne := by rw [handleOf, entryName_of_main hmain hne]
  noEntryPoint hmain := by rw [handleOf, entryName_of_noMain hmain]
  noVersion := hnone

/-- A handle that is made describes its package. -/
theorem describes_of_ofManifest {directory : Path} {source : Source} {manifest : Members} {handle : Handle}
    (h : Handle.ofManifest rule directory source manifest = .ok handle) :
    handle.Describes directory source manifest := by
  obtain ⟨version, hversion, hrest⟩ := bind_eq_ok_iff.1 h
  obtain ⟨generation, hgeneration, hrest⟩ := bind_eq_ok_iff.1 hrest
  obtain rfl : handleOf directory source manifest version generation = handle := Except.ok.inj hrest
  refine describes_handleOf directory source fun hnone => ?_
  rw [ofManifest_of_noVersion directory source hnone] at h
  cases h
  exact ⟨rfl, rfl⟩

/-- No handle is made exactly if the declared version has a number of too many digits. -/
theorem ofManifest_eq_error_iff (directory : Path) (source : Source) {manifest : Members}
    {limit : Decimal.TooManyDigits} :
    Handle.ofManifest rule directory source manifest = .error limit ↔
      ∃ declared, Declares manifest declared ∧ Overlong rule declared limit := by
  by_cases hdeclares : ∃ declared, Declares manifest declared
  case neg =>
    rw [ofManifest_of_noVersion directory source (not_exists.1 hdeclares)]
    simp only [reduceCtorEq, false_iff]
    rintro ⟨declared, hdeclared, -⟩
    exact hdeclares ⟨declared, hdeclared⟩
  obtain ⟨declared, hdeclares⟩ := hdeclares
  have hdeclared : (∃ declared, Declares manifest declared ∧ Overlong rule declared limit) ↔
      Overlong rule declared limit :=
    ⟨fun ⟨_, h, hlong⟩ => h.unique hdeclares ▸ hlong, fun hlong => ⟨declared, hdeclares, hlong⟩⟩
  rw [hdeclared]
  cases hfound : Version.ofText rule (Version.candidate declared.toList) with
  | error limit' =>
    rw [ofManifest_of_declares directory source hdeclares, Version.normalize_eq hdeclares.ne_empty, hfound]
    constructor
    · rintro ⟨⟩
      exact .candidate hfound
    · rintro (h | ⟨h, -⟩)
      · cases hfound.symm.trans h
        rfl
      · cases hfound.symm.trans h
  | ok found =>
    cases found with
    | some v =>
      rw [ofManifest_of_candidate directory source hdeclares hfound]
      constructor
      · rintro ⟨⟩
      · rintro (h | ⟨h, -⟩)
        · cases hfound.symm.trans h
        · cases hfound.symm.trans h
    | none =>
      rw [ofManifest_of_noCandidate directory source hdeclares hfound]
      cases hwhole : Version.ofText rule declared.toList with
      | error limit' =>
        constructor
        · rintro ⟨⟩
          exact .whole hfound hwhole
        · rintro (h | ⟨-, h⟩)
          · cases hfound.symm.trans h
          · cases hwhole.symm.trans h
            rfl
      | ok v =>
        constructor
        · rintro ⟨⟩
        · rintro (h | ⟨-, h⟩)
          · cases hfound.symm.trans h
          · cases hwhole.symm.trans h

/-- The errors that loading a package with such a manifest raises. -/
inductive Escapes (platform : Platform) (content : Except FileError Bytes) : LintError → Prop
  | refused {e : LintError} : Refuses platform.jsonDepth content e → Escapes platform content e
  | overlong {manifest : Members} {declared : String} {limit : Decimal.TooManyDigits} :
      CountsAs platform.jsonDepth content manifest → Declares manifest declared →
      Overlong platform.caseRule declared limit → Escapes platform content (.beyondLimit (.digits limit))

/-- What counts as a manifest raises an error exactly if no handle can be made of it. -/
theorem escapes_iff_of_countsAs {platform : Platform} (directory : Path) (source : Source) {manifest : Members}
    (h : CountsAs platform.jsonDepth content manifest) {e : LintError} :
    Escapes platform content e ↔
      ∃ limit, Handle.ofManifest platform.caseRule directory source manifest = .error limit ∧
        e = .beyondLimit (.digits limit) := by
  simp only [ofManifest_eq_error_iff]
  constructor
  · rintro (hrefuses | ⟨hcounts, hdeclares, hlong⟩)
    · exact absurd hrefuses h.not_refuses
    · cases h.unique hcounts
      exact ⟨_, ⟨_, hdeclares, hlong⟩, rfl⟩
  · rintro ⟨limit, ⟨declared, hdeclares, hlong⟩, rfl⟩
    exact .overlong h hdeclares hlong

theorem escapes_iff_of_refuses {platform : Platform} {e e' : LintError}
    (h : Refuses platform.jsonDepth content e) : Escapes platform content e' ↔ e = e' := by
  let file : Path := ⟨.here, []⟩
  constructor
  · rintro (hrefuses | ⟨hcounts, -⟩)
    · cases (manifestOf_of_refuses file h).symm.trans (manifestOf_of_refuses file hrefuses)
      rfl
    · exact absurd h hcounts.not_refuses
  · rintro rfl
    exact .refused h

/-- How the loading of a package ends, by the content of its manifest. -/
structure LoadEnd (platform : Platform) (directory : Path) (source : Source) (content : Except FileError Bytes)
    (result : Except LintError Handle) : Prop where
  raises : ∀ e, result = .error e ↔ Escapes platform content e
  loads : ∀ handle, result = .ok handle →
    ∃ manifest, CountsAs platform.jsonDepth content manifest ∧ handle.Describes directory source manifest

theorem load_ends (package : String) (source : Source) {s : State}
    (hnul : FileTree.hasNul (directory.child manifestName) = false) :
    LoadEnd s.host.platform directory source (s.host.files.read (directory.child manifestName))
      ((load package directory source).runOn s).1 := by
  have hopened : s.host.files.read (directory.child manifestName) ≠ .error .nulCharacter := by
    rw [ne_eq, FileTree.read_eq_nulCharacter_iff, hnul]
    simp
  rcases countsAs_or_refuses hopened with ⟨manifest, hcounts⟩ | ⟨e, hrefuses⟩
  · rw [load_of_countsAs package source hcounts]
    cases hmanifest : Handle.ofManifest s.host.platform.caseRule directory source manifest with
    | error limit =>
      refine ⟨fun e => ?_, fun handle h => nomatch h⟩
      simp [escapes_iff_of_countsAs directory source hcounts, hmanifest, Except.mapError, eq_comm]
    | ok handle =>
      refine ⟨fun e => ?_, fun handle' h => ⟨manifest, hcounts, ?_⟩⟩
      · simp [escapes_iff_of_countsAs directory source hcounts, hmanifest, Except.mapError]
      · cases h
        exact describes_of_ofManifest hmanifest
  · rw [load_of_refuses package source hrefuses]
    refine ⟨fun e' => ?_, fun handle h => nomatch h⟩
    rw [escapes_iff_of_refuses hrefuses, Except.error.injEq]

/-! ## Located packages -/

theorem hasNul_manifest (p : Path) : FileTree.hasNul (p.child manifestName) = FileTree.hasNul p := by
  have hname : Path.ofString manifestName = ⟨.here, ["package.json"]⟩ := by decide +kernel
  rw [Path.child, Path.join, hname]
  simp [FileTree.hasNul]

/-- The directory of a copy that was found holds no NUL character. -/
theorem hasNul_of_yields {settings : Settings} {h : Host} (ht : h.files.NulFree) {Root : Source → Path → Prop}
    {directory p : Path} {source : Source} (hy : Yields settings h Root directory source (.ok (some p))) :
    FileTree.hasNul p = false := by
  have hcopy {modules : List Path} (hs : SoughtCopy h settings.packageName modules (.ok (some p))) :
      FileTree.hasNul p = false := by
    obtain ⟨found, hfound, hp⟩ := hs
    cases hfound with
    | refused => cases hp
    | missing => cases hp
    | @found m _ hfile =>
      cases hp
      refine ht.hasNul_realPath ?_
      rw [← hasNul_manifest]
      exact FileTree.hasNul_of_isFile (Host.isFile_files hfile)
  cases hy with
  | project hs => exact hcopy hs
  | global _ _ hs => exact hcopy hs

theorem hasNul_of_located {settings : Settings} {h : Host} (ht : h.files.NulFree) {Root : Source → Path → Prop}
    {file : Path} {sources looked : List Source} {source : Source}
    (hl : Located settings h Root file sources looked (.ok (directory, source))) :
    FileTree.hasNul directory = false := by
  generalize hresult : Except.ok (directory, source) = result at hl
  induction hl with
  | found hy =>
    cases hresult
    exact hasNul_of_yields ht hy
  | refused => cases hresult
  | next _ _ ih => exact ih hresult
  | nowhere => cases hresult

/-- What is located can be loaded, up to what is in its manifest by then. -/
theorem load_located {settings : Settings} {file : Path} (ht : s.host.files.NulFree) {source : Source}
    (hlocate : ((locate settings file).runOn s).1 = .ok (directory, source)) (package : String) (now : State) :
    LoadEnd now.host.platform directory source
      (now.host.files.read (directory.child manifestName)) ((load package directory source).runOn now).1 := by
  refine load_ends package source ?_
  rw [hasNul_manifest]
  obtain ⟨looked, hlocated⟩ := (locate_eq_iff settings file s _).1 hlocate
  exact hasNul_of_located ht hlocated

/-- The errors of a search: the system refuses to look for a manifest, or there is no copy. -/
inductive LocateFails (settings : Settings) (file : Path) (h : Host) : LintError → Prop
  | refused {package modules : Path} {cause : FileError} : package = modules.child settings.packageName →
      h.isFile (package.child manifestName) = .error cause →
      LocateFails settings file h (.unsearchable (package.child manifestName) cause)
  | missing : LocateFails settings file h (.noLibrary settings.packageName file)

theorem locateFails_of_yields {settings : Settings} {file directory : Path} {h : Host} {Root : Source → Path → Prop}
    {source : Source} {e : LintError} (hy : Yields settings h Root directory source (.error e)) :
    LocateFails settings file h e := by
  have hrefused {modules : List Path} (hs : SoughtCopy h settings.packageName modules (.error e)) :
      LocateFails settings file h e := by
    obtain ⟨found, hfound, he⟩ := hs
    cases hfound with
    | found => cases he
    | missing => cases he
    | refused _ hcause =>
      cases he
      exact .refused rfl hcause
  cases hy with
  | project hs => exact hrefused hs
  | global _ _ hs => exact hrefused hs

theorem locateFails_of_located {settings : Settings} {file : Path} {h : Host} {Root : Source → Path → Prop}
    {sources looked : List Source} {e : LintError} (hl : Located settings h Root file sources looked (.error e)) :
    LocateFails settings file h e := by
  generalize hresult : Except.error e = result at hl
  induction hl with
  | found => cases hresult
  | refused hy =>
    cases hresult
    exact locateFails_of_yields hy
  | next _ _ ih => exact ih hresult
  | nowhere =>
    cases hresult
    exact .missing

/-- A search that fails has been refused a look-up, or has found nothing. -/
theorem locate_error {settings : Settings} {file : Path} {e : LintError}
    (h : ((locate settings file).runOn s).1 = .error e) : LocateFails settings file s.host e := by
  obtain ⟨looked, hl⟩ := (locate_eq_iff settings file s _).1 h
  exact locateFails_of_located hl

end LintBridge.Library

namespace LintBridge

open Library Attempt

variable {s : State}

/-- Why there is no library for a file that none is kept for: the search for it fails, or the manifest of the one
that is located raises an error. -/
inductive LibraryFails (settings : Settings) (file : Path) (s : State) (e : LintError) : Prop
  | unlocated : LocateFails settings file s.host e → ((locate settings file).runOn s).1 = .error e →
      LibraryFails settings file s e
  | escapes {directory : Path} {source : Source} :
      ((locate settings file).runOn s).1 = .ok (directory, source) →
      Table.find? s.cache.packages directory = none →
      Escapes s.host.platform (s.host.files.read (directory.child manifestName)) e →
      LibraryFails settings file s e

theorem adapterAt_eq_error_iff (settings : Settings) (directory : Path) (source : Source) (e : LintError) :
    ((adapterAt settings directory source).runOn s).1 = .error e ↔
      Table.find? s.cache.packages directory = none ∧
        ((load settings.packageName directory source).runOn s).1 = .error e := by
  have hanswer : (Query.packageAt directory).answer s = (Table.find? s.cache.packages directory, s) := rfl
  rw [adapterAt, runOn_step_bind, hanswer]
  cases Table.find? s.cache.packages directory with
  | some adapter => simp
  | none =>
    simp only [runOn_bind_eq_error_iff, true_and]
    refine or_iff_left ?_
    rintro ⟨handle, s', -, hkept⟩
    cases hkept

theorem libraryFor_eq_error_iff (settings : Settings) {file : Path} (e : LintError) :
    ((libraryFor settings file).runOn s).1 = .error e ↔
      Table.find? s.cache.files file = none ∧
        (((locate settings file).runOn s).1 = .error e ∨ ∃ directory source s',
          (locate settings file).runOn s = (.ok (directory, source), s') ∧
            ((adapterAt settings directory source).runOn s').1 = .error e) := by
  rw [libraryFor, runOn_step_bind]
  cases hfile : Table.find? s.cache.files file with
  | some adapter =>
    have hanswer : (Query.libraryOf file).answer s =
        (some adapter, { s with cache := { s.cache with libraryHits := s.cache.libraryHits + 1 } }) := by
      simp [Query.answer, Cache.libraryOf, hfile]
    rw [hanswer]
    simp
  | none =>
    have hanswer : (Query.libraryOf file).answer s = (none, s) := by
      simp [Query.answer, Cache.libraryOf, hfile]
    rw [hanswer, runOn_bind_eq_error_iff]
    simp only [true_and]
    refine or_congr_right ⟨?_, ?_⟩
    · rintro ⟨⟨directory, source⟩, s', hlocate, h⟩
      refine ⟨directory, source, s', hlocate, (runOn_bind_eq_error_iff.1 h).resolve_right ?_⟩
      rintro ⟨adapter, s'', -, hkept⟩
      cases hkept
    · rintro ⟨directory, source, s', hlocate, hload⟩
      exact ⟨(directory, source), s', hlocate, runOn_bind_eq_error_iff.2 (.inl hload)⟩

/-- Looking up the library of a file fails exactly if none is kept and the search for it fails, or the manifest of
the one that is located raises an error. -/
theorem libraryFor_fails_iff (settings : Settings) {file : Path} (ht : s.host.files.NulFree) (e : LintError) :
    ((libraryFor settings file).runOn s).1 = .error e ↔
      Table.find? s.cache.files file = none ∧ LibraryFails settings file s e := by
  rw [libraryFor_eq_error_iff]
  refine and_congr_right fun _ => ?_
  have hhost : s.host.Marked ((locate settings file).runOn s).2.host := marked_search (asks_locate settings file) s
  obtain ⟨roots, hcache⟩ := Routine.Asks.cache_search (asks_locate settings file) s
  have hcache : ((locate settings file).runOn s).2.cache = s.cache.withRoots roots := hcache
  -- the search marks files at most, so the manifest reads as before it
  have hload {directory : Path} {source : Source} {s' : State}
      (hlocate : (locate settings file).runOn s = (.ok (directory, source), s')) :
      ((adapterAt settings directory source).runOn s').1 = .error e ↔
        Table.find? s.cache.packages directory = none ∧
          Escapes s.host.platform (s.host.files.read (directory.child manifestName)) e := by
    rw [hlocate] at hhost hcache
    rw [adapterAt_eq_error_iff, hcache, hhost.files.read_eq, hhost.platform,
      (load_located ht (congrArg Prod.fst hlocate) settings.packageName s').raises]
    rfl
  constructor
  · rintro (hlocate | ⟨directory, source, s', hlocate, h⟩)
    · exact .unlocated (locate_error hlocate) hlocate
    · obtain ⟨hpackage, hescapes⟩ := (hload hlocate).1 h
      exact .escapes (congrArg Prod.fst hlocate) hpackage hescapes
  · rintro (⟨-, hlocate⟩ | @⟨directory, source, hlocate, hpackage, hescapes⟩)
    · exact .inl hlocate
    · have hlocate : (locate settings file).runOn s =
          (.ok (directory, source), ((locate settings file).runOn s).2) := Prod.ext hlocate rfl
      exact .inr ⟨directory, source, _, hlocate, (hload hlocate).2 ⟨hpackage, hescapes⟩⟩

/-- Loading a package that was located fails exactly if the manifest that it has by then raises an error, and
what is loaded is what the manifest counts as. So no look-up of a library fails otherwise, unless there is none or
the system refuses to look. -/
theorem library_loads_unless_manifest_escapes (settings : Settings) (file : Path) (ht : s.host.files.NulFree) :
    (∀ directory source, ((locate settings file).runOn s).1 = .ok (directory, source) → ∀ now : State,
      LoadEnd now.host.platform directory source (now.host.files.read (directory.child manifestName))
        ((load settings.packageName directory source).runOn now).1) ∧
    ∀ e, ((libraryFor settings file).runOn s).1 = .error e ↔
      Table.find? s.cache.files file = none ∧ LibraryFails settings file s e :=
  ⟨fun _ _ hlocate => load_located ht hlocate settings.packageName, libraryFor_fails_iff settings ht⟩

/-- A project with a library whose manifest is not UTF-8. -/
def brokenProject : Host where
  files := ⟨[(["p"], .directory), (["p", "node_modules"], .directory),
    (["p", "node_modules", "tslint"], .directory),
    (["p", "node_modules", "tslint", "package.json"], .file (some [0xff]) 1)], []⟩
  environment := []
  executables := []
  replies := fun _ => { outcome := .refused "" }

/-- The library is located, and looking it up fails nonetheless. -/
theorem brokenProject_escapes :
    brokenProject.fresh.host.files.NulFree ∧
      ((locate {} ⟨.root, ["p", "a.ts"]⟩).runOn brokenProject.fresh).1 =
        .ok (⟨.root, ["p", "node_modules", "tslint"]⟩, .project) ∧
      ((libraryFor {} ⟨.root, ["p", "a.ts"]⟩).runOn brokenProject.fresh).1 = .error .notUtf8 := by
  have hfree : brokenProject.fresh.host.files.NulFree := by
    refine ⟨fun place target hlink => ?_, by simp [Host.fresh, brokenProject]⟩
    unfold FileTree.node? at hlink
    split at hlink
    next => cases hlink
    next => simpa [Host.fresh, brokenProject] using Table.mem_of_find? hlink
  have hlocate : ((locate {} ⟨.root, ["p", "a.ts"]⟩).runOn brokenProject.fresh).1 =
      .ok (⟨.root, ["p", "node_modules", "tslint"]⟩, .project) :=
    toOption_eq_some_iff.1 (by decide +kernel)
  have hread : brokenProject.fresh.host.files.read
      ((⟨.root, ["p", "node_modules", "tslint"]⟩ : Path).child manifestName) = .ok [0xff] :=
    toOption_eq_some_iff.1 (by decide +kernel)
  have hescapes : Escapes {} (brokenProject.fresh.host.files.read
      ((⟨.root, ["p", "node_modules", "tslint"]⟩ : Path).child manifestName)) .notUtf8 := by
    rw [hread]
    exact .refused (.notUtf8 (by decide +kernel))
  refine ⟨hfree, hlocate, ?_⟩
  exact ((library_loads_unless_manifest_escapes {} ⟨.root, ["p", "a.ts"]⟩ hfree).2 .notUtf8).2
    ⟨rfl, .escapes hlocate rfl hescapes⟩

end LintBridge
