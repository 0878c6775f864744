-- SUMMARY: As which version and generation a library is loaded, by the version in its manifest.
import LintBridge.Proofs.Library.Manifest
import LintBridge.Proofs.Version.Ascii
import LintBridge.Proofs.Version.Semantic

/-!
# Versions and generations of libraries

A library with a semantic version is loaded as its three numbers, and the first of these tells its generation.
A library whose version cannot be read is modern, and one without a version is legacy.
-/

namespace LintBridge.Library

open Json

variable {rule : Version.CaseRule} {directory : Path} {source : Source} {manifest : Members} {raw : Text.Codes}

theorem declares_of_text (h : member? manifest "version" = some (.text raw))
    (hblank : ∃ c ∈ raw.shown.toList, ¬Text.isBlank c) :
    Declares manifest (String.ofList (Text.trim Text.isBlank raw.shown.toList)) := ⟨raw, h, hblank, rfl⟩

/-! ## Semantic versions -/

theorem declares_of_semantic {v : Version.Semantic} (h : member? manifest "version" = some (.text raw))
    (htext : Text.trim Text.isBlank raw.shown.toList = v.text) : Declares manifest (String.ofList v.text) := by
  rw [← htext]
  refine declares_of_text h (Decidable.by_contra fun hblank => ?_)
  have hempty : Text.trim Text.isBlank raw.shown.toList = [] := Text.trim_eq_nil_iff.2 (by simpa using hblank)
  obtain ⟨c, hc, -⟩ := v.exists_not_isBlank
  rw [← htext, hempty] at hc
  cases hc

/-- A semantic version is loaded as its three numbers. -/
theorem ofManifest_of_semantic {v : Version.Semantic} (h : Declares manifest (String.ofList v.text))
    (hshort : ∀ number ∈ v.numbers, number.length ≤ Decimal.maxDigits) :
    Handle.ofManifest rule directory source manifest = .ok (handleOf directory source manifest
      (some (String.ofList v.core)) (.ofReading (some (Version.release v.major [v.minor, v.patch])))) := by
  have hfound : Version.ofText rule (Version.candidate (String.ofList v.text).toList) =
      .ok (some (Version.release v.major [v.minor, v.patch])) := by
    rw [String.toList_ofList, v.candidate_text, v.ofText_core, Version.checkLengths_eq_ok_iff.2 hshort]
    rfl
  have hmanifest := ofManifest_of_candidate directory source h hfound
  rw [String.toList_ofList, v.candidate_text] at hmanifest
  exact hmanifest

theorem ofManifest_of_overlong {v : Version.Semantic} (h : Declares manifest (String.ofList v.text)) {count : Nat}
    (hlong : Version.TooLong v.numbers count) : Handle.ofManifest rule directory source manifest = .error ⟨count⟩ := by
  refine (ofManifest_eq_error_iff directory source).2 ⟨_, h, .candidate ?_⟩
  have hlimit : Decimal.checkLengths v.numbers = .error ⟨count⟩ := Version.checkLengths_eq_error_iff.2 hlong
  rw [String.toList_ofList, v.candidate_text, v.ofText_core, hlimit]
  rfl

/-! ## Other versions -/

/-- A library in whose version none is found is modern. -/
theorem ofManifest_of_unreadable (h : member? manifest "version" = some (.text raw))
    (hblank : ∃ c ∈ raw.shown.toList, ¬Text.isBlank c) (hnone : Version.normalize rule raw.shown = .ok none) :
    Handle.ofManifest rule directory source manifest = .ok (handleOf directory source manifest none .modern) := by
  have hne : raw.shown ≠ "" := by
    intro hempty
    obtain ⟨c, hc, -⟩ := hblank
    rw [hempty] at hc
    cases hc
  have hfound : Version.ofText? rule (Version.candidate raw.shown.toList) = none :=
    (Version.normalize_eq_none_iff hne).1 hnone
  have hcandidate : Version.ofText rule
      (Version.candidate (String.ofList (Text.trim Text.isBlank raw.shown.toList)).toList) = .ok none := by
    rw [String.toList_ofList, Version.candidate_trim, Version.ofText_eq_none_iff, hfound]
  have hwhole : Version.ofText rule (Text.trim Text.isBlank raw.shown.toList) = .ok none :=
    Version.ofText_eq_none_iff.2 (Version.ofText?_trim_eq_none hfound)
  rw [ofManifest_of_noCandidate directory source (declares_of_text h hblank) hcandidate, String.toList_ofList,
    hwhole]
  rfl

/-! ## Loading -/

/-- What a library is loaded as, by the version in its manifest. A semantic version counts with blanks around it. No
version has a surrogate in it, so the text counts as it is shown. -/
structure Classified (rule : Version.CaseRule) (manifest : Members) (result : Except LintError Handle) : Prop where
  semantic : ∀ (raw : Text.Codes) (v : Version.Semantic), member? manifest "version" = some (.text raw) →
    Text.trim Text.isBlank raw.shown.toList = v.text → (∀ number ∈ v.numbers, number.length ≤ Decimal.maxDigits) →
    ∃ handle, result = .ok handle ∧ handle.version = some (String.ofList v.core) ∧
      (handle.generation = .legacy ↔ Decimal.value v.major ≤ 3)
  overlong : ∀ (raw : Text.Codes) (v : Version.Semantic) count, member? manifest "version" = some (.text raw) →
    Text.trim Text.isBlank raw.shown.toList = v.text → Version.TooLong v.numbers count →
    result = .error (.beyondLimit (.digits ⟨count⟩))
  unreadable : ∀ raw : Text.Codes, member? manifest "version" = some (.text raw) →
    (∃ c ∈ raw.shown.toList, ¬Text.isBlank c) → Version.normalize rule raw.shown = .ok none →
    ∃ handle, result = .ok handle ∧ handle.version = none ∧ handle.generation = .modern
  missing : (∀ raw : Text.Codes, member? manifest "version" = some (.text raw) →
      ∀ c ∈ raw.shown.toList, Text.isBlank c) →
    ∃ handle, result = .ok handle ∧ handle.version = none ∧ handle.generation = .legacy

/-- A package is loaded with the version and the generation of its manifest. -/
theorem load_classified (package : String) (directory : Path) (source : Source) {s : State} {manifest : Members}
    (h : CountsAs s.host.platform.jsonDepth (s.host.files.read (directory.child manifestName)) manifest) :
    Classified s.host.platform.caseRule manifest ((load package directory source).runOn s).1 := by
  rw [load_of_countsAs package source h]
  constructor
  · intro raw v hraw htext hshort
    rw [ofManifest_of_semantic (declares_of_semantic hraw htext) hshort]
    exact ⟨_, rfl, rfl, Generation.ofReading_eq_legacy_iff _⟩
  · intro raw v count hraw htext hlong
    rw [ofManifest_of_overlong (declares_of_semantic hraw htext) hlong]
    rfl
  · intro raw hraw hblank hnone
    rw [ofManifest_of_unreadable hraw hblank hnone]
    exact ⟨_, rfl, rfl, rfl⟩
  · intro hmissing
    rw [ofManifest_of_noVersion directory source]
    · exact ⟨_, rfl, rfl, rfl⟩
    · rintro declared ⟨raw, hraw, ⟨c, hc, hblank⟩, -⟩
      exact hblank (hmissing raw hraw c hc)

/-- The version text in what is read as a manifest. -/
def versionIn? : Except ReadError Value → Option Text.Codes
  | .ok (.object manifest) =>
    match member? manifest "version" with
    | some (.text raw) => some raw
    | _ => none
  | _ => none

theorem countsAs_of_versionIn {depth : Nat} {bytes : Bytes} {text : List Char}
    (hdecode : Text.Utf8.decode? bytes = some text)
    (hversion : versionIn? (Json.read depth (Text.unifyNewlines text)) = some raw) :
    ∃ manifest, CountsAs depth (.ok bytes) manifest ∧ member? manifest "version" = some (.text raw) := by
  unfold versionIn? at hversion
  split at hversion
  next manifest hread =>
    split at hversion
    next raw hraw =>
      cases hversion
      exact ⟨manifest, .object hdecode hread, hraw⟩
    next => cases hversion
  next => cases hversion

/-- The manifest of a pre-release. -/
def preReleaseManifest : List Char := "\x7b\"version\":\" v4.0.0-rc.1.2+3.9.1\"\x7d".toList

/-- A project whose library is a pre-release. -/
def preRelease : Host where
  files := ⟨[(["p"], .directory), (["p", "node_modules"], .directory),
    (["p", "node_modules", "tslint"], .directory),
    (["p", "node_modules", "tslint", "package.json"], .file (some (Text.Utf8.encode preReleaseManifest)) 1)], []⟩
  environment := []
  executables := []
  replies := fun _ => { outcome := .refused "" }

/-- The numbers of the pre-release and of the build are passed by. -/
theorem preRelease_classified :
    ∃ manifest handle,
      CountsAs 989 (preRelease.fresh.host.files.read (Path.child ⟨.root, ["p", "node_modules", "tslint"]⟩ manifestName))
        manifest ∧
      ((load "tslint" ⟨.root, ["p", "node_modules", "tslint"]⟩ .project).runOn preRelease.fresh).1 = .ok handle ∧
      handle.version = some "4.0.0" ∧ handle.generation ≠ .legacy := by
  have hcontent : preRelease.fresh.host.files.read
      (Path.child ⟨.root, ["p", "node_modules", "tslint"]⟩ manifestName) =
        .ok (Text.Utf8.encode preReleaseManifest) :=
    toOption_eq_some_iff.1 (by decide +kernel)
  have hdecode : Text.Utf8.decode? (Text.Utf8.encode preReleaseManifest) = some preReleaseManifest := by
    decide +kernel
  have hread : versionIn? (Json.read 989 (Text.unifyNewlines preReleaseManifest)) =
      some (.ofString " v4.0.0-rc.1.2+3.9.1") := by
    decide +kernel
  obtain ⟨manifest, hcounts, hraw⟩ := countsAs_of_versionIn hdecode hread
  rw [← hcontent] at hcounts
  let v : Version.Semantic :=
    { marked := true
      major := ⟨['4'], by decide⟩
      minor := ⟨['0'], by decide⟩
      patch := ⟨['0'], by decide⟩
      pre := [⟨['r', 'c'], by decide⟩, ⟨['1'], by decide⟩, ⟨['2'], by decide⟩]
      build := [⟨['3'], by decide⟩, ⟨['9'], by decide⟩, ⟨['1'], by decide⟩] }
  have htext : Text.trim Text.isBlank (Text.Codes.ofString " v4.0.0-rc.1.2+3.9.1").shown.toList = v.text := by
    decide +kernel
  obtain ⟨handle, hload, hversion, hgeneration⟩ :=
    (load_classified (s := preRelease.fresh) "tslint" _ .project hcounts).semantic _ v hraw htext (by decide)
  refine ⟨manifest, handle, hcounts, hload, hversion.trans (by decide +kernel), ?_⟩
  rw [ne_eq, hgeneration]
  decide

end LintBridge.Library
