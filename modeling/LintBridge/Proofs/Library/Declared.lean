-- SUMMARY: When the generation of a library is that of the version which its manifest declares.
import LintBridge.Proofs.Library.Classified
import LintBridge.Proofs.Version.Found

/-!
# Declared versions and generations

What is found in a declared version has the generation of the version, with two exceptions. A version with a single
number in its release may have a dotted run in its local part, and that is found then; and a number may have too
many digits.
-/

namespace LintBridge.Version

open Text

variable {rule : CaseRule} {s : List Char} {v : Version}

/-! ## Exceptions -/

/-- A number in a version text has too many digits. -/
def IsOverlong (rule : CaseRule) (s : List Char) : Prop := ∃ number ∈ numbers rule s, Decimal.maxDigits < number.length

/-- A version has a single number in its release, and a dotted run in its local part that begins with the number of
another generation. -/
structure MisledByLocal (rule : CaseRule) (s : List Char) (v : Version) : Prop where
  single : v.minor = []
  run : ∃ run found, dottedRun? (localPart s) = some run ∧ ofText? rule run = some found ∧
    ¬(found.major ≤ lastLegacyMajor ↔ v.major ≤ lastLegacyMajor)

/-- A version is read unless one of its numbers has too many digits. -/
theorem ofText_of_version (h : ofText? rule s = some v) :
    ¬IsOverlong rule s ∧ ofText rule s = .ok (some v) ∨ IsOverlong rule s ∧ ∃ limit, ofText rule s = .error limit := by
  rw [ofText, h]
  cases hlengths : Decimal.checkLengths (numbers rule s) with
  | ok _ =>
    refine .inl ⟨?_, rfl⟩
    rintro ⟨number, hnumber, hlong⟩
    exact absurd hlong (Nat.not_lt.2 (checkLengths_eq_ok_iff.1 hlengths number hnumber))
  | error limit =>
    refine .inr ⟨?_, limit, rfl⟩
    by_contra hshort
    have hok : Decimal.checkLengths (numbers rule s) = .ok () := checkLengths_eq_ok_iff.2 fun number hnumber =>
      Nat.not_lt.1 fun hlong => hshort ⟨number, hnumber, hlong⟩
    rw [hlengths] at hok
    cases hok

/-- What is found in a version is a version, and its major release tells the same generation unless the local part
misleads. -/
theorem exists_found (h : ofText? rule s = some v) :
    ∃ found, ofText? rule (candidate s) = some found ∧
      ((found.major ≤ lastLegacyMajor ↔ v.major ≤ lastLegacyMajor) ↔ ¬MisledByLocal rule s v) := by
  have hsome : (ofText? rule s).isSome := by rw [h]; rfl
  rcases dottedRun_of_version h with ⟨⟨first, second, others, hnumbers, hmajor, hrun⟩, hminor⟩ | ⟨hrun, hminor⟩
  · refine ⟨release first (second :: others), ?_, ?_⟩
    · rw [candidate, hrun, Option.getD_some, ofText?_joinPieces hnumbers]
    · have hnot : ¬MisledByLocal rule s v := fun hmisled => hminor hmisled.single
      simp [hnot, ← hmajor, release]
  · cases hlocal : dottedRun? (localPart s) with
    | none =>
      refine ⟨v, ?_, ?_⟩
      · rw [candidate, hrun, hlocal, Option.getD_none, ofText?_trim, h]
      · have hnot : ¬MisledByLocal rule s v := by
          rintro ⟨-, run, found, hsome, -⟩
          rw [hlocal] at hsome
          cases hsome
        simp [hnot]
    | some run =>
      obtain ⟨found, hfound⟩ := Option.isSome_iff_exists.1 (isSome_of_dottedRun hsome (hrun.trans hlocal))
      refine ⟨found, ?_, ?_⟩
      · rw [candidate, hrun, hlocal, Option.getD_some, hfound]
      · constructor
        · rintro hsame ⟨-, run', found', hrun', hfound', hother⟩
          cases hlocal.symm.trans hrun'
          cases hfound.symm.trans hfound'
          exact hother hsame
        · intro hnot
          by_contra hother
          exact hnot ⟨hminor, run, found, hlocal, hfound, hother⟩

end LintBridge.Version

namespace LintBridge.Library

open Json Version

variable {rule : CaseRule} {raw : String} {v : Version}

/-! ## Generations -/

/-- A generation is that of a version. -/
def IsOf (generation : Generation) (v : Version) : Prop := generation = .legacy ↔ v.major ≤ lastLegacyMajor

/-- A version text is normalized to one of the same generation, which is that of its major release. -/
def KeepsGeneration (rule : CaseRule) (raw : String) (v : Version) : Prop :=
  ∃ found generation, normalize rule raw = .ok (some found) ∧ Generation.ofVersion rule (some found) = .ok generation ∧
    Generation.ofVersion rule (some raw) = .ok generation ∧ IsOf generation v

/-- A library is loaded with the generation of a version. -/
def LoadsAs (result : Except LintError Handle) (v : Version) : Prop :=
  ∃ handle, result = .ok handle ∧ IsOf handle.generation v

theorem ofReading_eq_iff (found v : Version) :
    Generation.ofReading (some found) = .ofReading (some v) ↔
      (found.major ≤ lastLegacyMajor ↔ v.major ≤ lastLegacyMajor) := by
  by_cases hfound : found.major ≤ lastLegacyMajor <;> by_cases hv : v.major ≤ lastLegacyMajor <;>
    simp [Generation.ofReading, hfound, hv]

theorem exists_not_isBlank_of_version (h : ofText? rule raw.toList = some v) : ∃ c ∈ raw.toList, ¬Text.isBlank c := by
  by_contra hblank
  have hempty : Text.trim Text.isBlank raw.toList = [] := Text.trim_eq_nil_iff.2 (by simpa using hblank)
  rw [← ofText?_trim, hempty] at h
  cases h

theorem ne_empty_of_version (h : ofText? rule raw.toList = some v) : raw ≠ "" := by
  rintro rfl
  obtain ⟨c, hc, -⟩ := exists_not_isBlank_of_version h
  cases hc

/-- A version text is classified by its major release, unless a number has too many digits. -/
theorem ofVersion_of_version (h : ofText? rule raw.toList = some v) :
    ¬IsOverlong rule raw.toList ∧ Generation.ofVersion rule (some raw) = .ok (.ofReading (some v)) ∨
      IsOverlong rule raw.toList ∧ ∃ limit, Generation.ofVersion rule (some raw) = .error limit := by
  rw [Generation.ofVersion_eq (ne_empty_of_version h)]
  rcases ofText_of_version h with ⟨hshort, hok⟩ | ⟨hlong, limit, herror⟩
  · exact .inl ⟨hshort, by rw [hok]; rfl⟩
  · exact .inr ⟨hlong, limit, by rw [herror]; rfl⟩

theorem keepsGeneration_iff (h : ofText? rule raw.toList = some v) :
    KeepsGeneration rule raw v ↔
      ¬MisledByLocal rule raw.toList v ∧ ¬IsOverlong rule raw.toList ∧ ¬IsOverlong rule (candidate raw.toList) := by
  obtain ⟨found, hfound, hsame⟩ := exists_found h
  have hnormalize : normalize rule raw = _ := normalize_eq (ne_empty_of_version h)
  rcases ofText_of_version hfound with ⟨hshort, hok⟩ | ⟨hlong, limit, herror⟩
  case inr =>
    rw [herror] at hnormalize
    simp only [hlong, not_true_eq_false, and_false, iff_false]
    rintro ⟨text, generation, htext, -⟩
    cases hnormalize.symm.trans htext
  have hfound' : ofText? rule (String.ofList (candidate raw.toList)).toList = some found := by
    rwa [String.toList_ofList]
  have hclass := ofVersion_of_version hfound'
  rw [String.toList_ofList] at hclass
  obtain ⟨-, hclass⟩ := hclass.resolve_right fun hlong => hshort hlong.1
  rw [hok] at hnormalize
  rcases ofVersion_of_version h with ⟨hshort', hraw⟩ | ⟨hlong, limit, herror⟩
  · simp only [hshort, hshort', not_false_eq_true, and_true, ← hsame, ← ofReading_eq_iff]
    constructor
    · rintro ⟨text, generation, htext, htextClass, hrawClass, -⟩
      cases hnormalize.symm.trans htext
      cases hclass.symm.trans htextClass
      exact Except.ok.inj (hrawClass.symm.trans hraw)
    · intro heq
      rw [heq] at hclass
      exact ⟨_, _, hnormalize, hclass, hraw, Generation.ofReading_eq_legacy_iff v⟩
  · simp only [hlong, not_true_eq_false, false_and, and_false, iff_false]
    rintro ⟨text, generation, -, -, hrawClass, -⟩
    cases herror.symm.trans hrawClass

theorem loadsAs_iff (package : String) (directory : Path) (source : Source) {s : State} {manifest : Members}
    (hrule : s.host.platform.caseRule = rule)
    (hcounts : CountsAs s.host.platform.jsonDepth (s.host.files.read (directory.child manifestName)) manifest)
    (hraw : member? manifest "version" = some (.text raw)) (h : ofText? rule raw.toList = some v) :
    LoadsAs ((load package directory source).runOn s).1 v ↔
      ¬MisledByLocal rule raw.toList v ∧ ¬IsOverlong rule (candidate raw.toList) := by
  obtain ⟨found, hfound, hsame⟩ := exists_found h
  have hdeclares := declares_of_text hraw (by simpa using exists_not_isBlank_of_version h)
  rw [Text.Codes.shown_ofString] at hdeclares
  have hcandidate : candidate (String.ofList (Text.trim Text.isBlank raw.toList)).toList = candidate raw.toList := by
    rw [String.toList_ofList, candidate_trim]
  rw [load_of_countsAs package source hcounts, hrule]
  rcases ofText_of_version hfound with ⟨hshort, hok⟩ | ⟨hlong, limit, herror⟩
  · rw [← hcandidate] at hok
    rw [ofManifest_of_candidate directory source hdeclares hok]
    simp only [hshort, not_false_eq_true, and_true, ← hsame]
    constructor
    · rintro ⟨handle, hhandle, hof⟩
      cases hhandle
      exact (Generation.ofReading_eq_legacy_iff found).symm.trans hof
    · intro heq
      exact ⟨_, rfl, (Generation.ofReading_eq_legacy_iff found).trans heq⟩
  · rw [← hcandidate] at herror
    rw [(ofManifest_eq_error_iff directory source).2 ⟨_, hdeclares, .candidate herror⟩]
    simp only [hlong, not_true_eq_false, and_false, iff_false]
    rintro ⟨handle, hhandle, -⟩
    cases hhandle

/-- Normalizing a version keeps its generation exactly if its local part does not mislead and no number has too many
digits, in the version or in what is found in it. A library that declares the version is loaded with that generation
exactly if the local part does not mislead and no number in what is found has too many digits. -/
theorem generation_kept_unless_misled_or_overlong (h : ofText? rule raw.toList = some v) :
    (KeepsGeneration rule raw v ↔
      ¬MisledByLocal rule raw.toList v ∧ ¬IsOverlong rule raw.toList ∧ ¬IsOverlong rule (candidate raw.toList)) ∧
    ∀ (package : String) (directory : Path) (source : Source) (s : State) (manifest : Members),
      s.host.platform.caseRule = rule →
      CountsAs s.host.platform.jsonDepth (s.host.files.read (directory.child manifestName)) manifest →
      member? manifest "version" = some (.text raw) →
      (LoadsAs ((load package directory source).runOn s).1 v ↔
        ¬MisledByLocal rule raw.toList v ∧ ¬IsOverlong rule (candidate raw.toList)) :=
  ⟨keepsGeneration_iff h, fun package directory source _ _ hrule hcounts hraw =>
    loadsAs_iff package directory source hrule hcounts hraw h⟩

/-- The manifest of a release with a single number and a local part. -/
def localReleaseManifest : List Char := "\x7b\"version\":\"5+1.2\"\x7d".toList

/-- A project whose library declares such a release. -/
def localRelease : Host where
  files := ⟨[(["p"], .directory), (["p", "node_modules"], .directory),
    (["p", "node_modules", "tslint"], .directory),
    (["p", "node_modules", "tslint", "package.json"], .file (some (Text.Utf8.encode localReleaseManifest)) 1)], []⟩
  environment := []
  executables := []
  replies := fun _ => { outcome := .refused "" }

/-- With two numbers in the release the generation is kept, whatever else the version has. With a single one a run in
the local part misleads, and the library is not loaded with the generation of its version. -/
theorem localRelease_misled :
    (∃ v, ofText? .ascii "\tV1!5.0rc.1.post2_DEV3+1.2 ".toList = some v ∧
      KeepsGeneration .ascii "\tV1!5.0rc.1.post2_DEV3+1.2 " v) ∧
    ∃ v, ofText? .ascii "5+1.2".toList = some v ∧ v.major = 5 ∧ ¬KeepsGeneration .ascii "5+1.2" v ∧
      ¬LoadsAs ((load "tslint" ⟨.root, ["p", "node_modules", "tslint"]⟩ .project).runOn localRelease.fresh).1 v := by
  constructor
  · let v : Version :=
      { epoch := 1, major := 5, minor := [0], pre := some (.candidate, 1), post := some 2, dev := some 3,
        build := ["1", "2"] }
    have hv : ofText? .ascii "\tV1!5.0rc.1.post2_DEV3+1.2 ".toList = some v := by decide +kernel
    have hnot : ¬MisledByLocal .ascii "\tV1!5.0rc.1.post2_DEV3+1.2 ".toList v :=
      fun hmisled => List.cons_ne_nil _ _ hmisled.single
    refine ⟨v, hv, (generation_kept_unless_misled_or_overlong hv).1.2 ⟨hnot, ?_, ?_⟩⟩
    · unfold IsOverlong
      decide +kernel
    · unfold IsOverlong
      decide +kernel
  · let v : Version :=
      { epoch := 0, major := 5, minor := [], pre := none, post := none, dev := none, build := ["1", "2"] }
    have hv : ofText? .ascii "5+1.2".toList = some v := by decide +kernel
    have hmisled : MisledByLocal .ascii "5+1.2".toList v :=
      ⟨rfl, "1.2".toList, release ['1'] [['2']], by decide +kernel, by decide +kernel, by decide⟩
    have hcontent : localRelease.fresh.host.files.read
        (Path.child ⟨.root, ["p", "node_modules", "tslint"]⟩ manifestName) =
          .ok (Text.Utf8.encode localReleaseManifest) :=
      toOption_eq_some_iff.1 (by decide +kernel)
    have hdecode : Text.Utf8.decode? (Text.Utf8.encode localReleaseManifest) = some localReleaseManifest := by
      decide +kernel
    have hread : versionIn? (Json.read 989 (Text.unifyNewlines localReleaseManifest)) = some (.ofString "5+1.2") := by
      decide +kernel
    obtain ⟨manifest, hcounts, hraw⟩ := countsAs_of_versionIn hdecode hread
    rw [← hcontent] at hcounts
    obtain ⟨hkeeps, hloads⟩ := generation_kept_unless_misled_or_overlong hv
    exact ⟨v, hv, rfl, fun h => (hkeeps.1 h).1 hmisled, fun h => ((hloads _ _ _ _ _ rfl hcounts hraw).1 h).1 hmisled⟩

end LintBridge.Library
