-- SUMMARY: The URI of a path is read as that path, and what a URI of another scheme is refused for.
import LintBridge.Proofs.Path
import LintBridge.Proofs.Text.Utf8
import LintBridge.Uri.Basic
import Mathlib.Data.List.TakeWhile

/-!
# URIs of paths

The URI of a path has an empty authority, no query, and no fragment, since all that could begin one is
escaped. So its path is the whole of what was escaped, and unescaping gives the text of the path back.
Only a URI of another scheme is one that is not of a file.
-/

namespace LintBridge

/-! ## Escaped bytes -/

theorem Hex.digit?_upper {d : Nat} (h : d < 16) : digit? (Nat.digitChar d).toUpper = some d := by
  revert d
  decide

namespace Uri

open Text (Utf8.encode Utf8.decodeLossy_encode)

theorem escapedBytes_cons {c : Char} (h : c ≠ '%') (rest : List Char) :
    escapedBytes (c :: rest) = String.utf8EncodeChar c ++ escapedBytes rest := by
  rw [escapedBytes]
  intro _ _ _ hc
  exact absurd hc h

theorem plain_ascii {n : Nat} (h : isPlainByte n) : n < 0x80 ∧ n ≠ 0x25 := by
  simp only [isPlainByte, Bool.or_eq_true, Bool.and_eq_true, decide_eq_true_eq, beq_iff_eq] at h
  omega

/-- An escaped byte is read back. -/
theorem escapedBytes_encodeByte (b : UInt8) (rest : List Char) :
    escapedBytes (encodeByte b ++ rest) = b :: escapedBytes rest := by
  have hb := b.toNat_lt
  unfold encodeByte
  split
  next hplain =>
    obtain ⟨hascii, hpercent⟩ := plain_ascii hplain
    have hc := Text.Utf8.toNat_ofNat (n := b.toNat) (by omega)
    have hne : Char.ofNat b.toNat ≠ '%' := by
      intro heq
      rw [heq] at hc
      exact hpercent hc.symm
    rw [List.singleton_append, escapedBytes_cons hne, Text.Utf8.encodeChar_ascii (by omega), hc,
      UInt8.ofNat_toNat]
    rfl
  next =>
    have hhigh := Hex.digit?_upper (d := b.toNat / 16 % 16) (by omega)
    have hlow := Hex.digit?_upper (d := b.toNat % 16) (by omega)
    simp only [Hex.upper, Hex.lower, List.nil_append, List.cons_append, List.map_cons, List.map_nil,
      escapedBytes, hhigh, hlow]
    rw [show b.toNat / 16 % 16 * 16 + b.toNat % 16 = b.toNat by omega, UInt8.ofNat_toNat]

theorem escapedBytes_encode (bytes : List UInt8) : escapedBytes (bytes.flatMap encodeByte) = bytes := by
  induction bytes with
  | nil => rfl
  | cons b rest ih => rw [List.flatMap_cons, escapedBytes_encodeByte, ih]

/-- Escaping is undone by unescaping. -/
theorem percentDecode_percentEncode (s : List Char) : percentDecode (percentEncode s) = s := by
  rw [percentDecode, percentEncode, escapedBytes_encode, Text.Utf8.decodeLossy_encode]

/-! ## Escaped texts -/

/-- A character that an escaped text can hold. -/
def isEscapedChar (c : Char) : Bool := isPlainByte c.toNat || c == '%'

theorem isEscapedChar_encodeByte (b : UInt8) : ∀ c ∈ encodeByte b, isEscapedChar c := by
  have hall : ∀ n < 256, (encodeByte (UInt8.ofNat n)).all isEscapedChar := by decide +kernel
  have := hall b.toNat b.toNat_lt
  rw [UInt8.ofNat_toNat] at this
  exact List.all_eq_true.1 this

theorem isEscapedChar_percentEncode {s : List Char} : ∀ c ∈ percentEncode s, isEscapedChar c := by
  intro c hc
  obtain ⟨b, -, hb⟩ := List.mem_flatMap.1 hc
  exact isEscapedChar_encodeByte b c hb

theorem isEscapedChar_bounds {c : Char} (h : isEscapedChar c) :
    0x20 < c.toNat ∧ c ≠ '#' ∧ c ≠ '?' := by
  have hne {d : Char} (hd : isEscapedChar d = false) : c ≠ d := by
    rintro rfl
    rw [h] at hd
    cases hd
  refine ⟨?_, hne (by decide), hne (by decide)⟩
  simp only [isEscapedChar, isPlainByte, Bool.or_eq_true, Bool.and_eq_true, decide_eq_true_eq,
    beq_iff_eq] at h
  rcases h with h | rfl
  · omega
  · decide

theorem clean_eq_self {s : List Char} (h : ∀ c ∈ s, 0x20 < c.toNat) : clean s = s := by
  have hdrop : s.dropWhile (·.toNat ≤ 0x20) = s := by
    cases s with
    | nil => rfl
    | cons c rest =>
      have := h c (List.mem_cons_self ..)
      exact List.dropWhile_cons_of_neg (by simpa using this)
  rw [clean, hdrop]
  refine List.filter_eq_self.2 fun c hc => ?_
  have hbound := h c hc
  have hne {d : Char} (hd : d.toNat ≤ 0x20) : c ≠ d := by
    rintro rfl
    omega
  simp [hne (d := '\t') (by decide), hne (d := '\r') (by decide), hne (d := '\n') (by decide)]

/-- An escaped path from the root stands alone behind an empty authority. -/
theorem ofString_file {path : List Char} (h : ∀ c ∈ '/' :: path, isEscapedChar c) :
    ofString (String.ofList ("file://".toList ++ '/' :: path)) =
      .ok { scheme := "file".toList, authority := [], path := '/' :: path } := by
  have hall : ∀ c ∈ "file://".toList ++ '/' :: path, 0x20 < c.toNat := by
    exact List.forall_mem_append.2 ⟨by simp, fun c hc => (isEscapedChar_bounds (h c hc)).1⟩
  have hscheme : splitScheme ("file://".toList ++ '/' :: path) =
      ("file".toList, '/' :: '/' :: '/' :: path) := rfl
  have hauthority : splitAuthority ('/' :: '/' :: '/' :: path) = ([], '/' :: path) := rfl
  have hpath : ('/' :: path).takeWhile (fun c => c ≠ '#' && c ≠ '?') = '/' :: path := by
    refine List.takeWhile_eq_self_iff.2 fun c hc => ?_
    simpa using (isEscapedChar_bounds (h c hc)).2
  rw [ofString, String.toList_ofList, clean_eq_self hall, hscheme]
  dsimp only
  rw [hauthority]
  dsimp only
  rw [hpath]
  rfl

theorem percentEncode_slash (s : List Char) : percentEncode ('/' :: s) = '/' :: percentEncode s := by
  have hslash : encodeByte 47 = ['/'] := by decide
  rw [percentEncode, Text.Utf8.encode, List.flatMap_cons, show String.utf8EncodeChar '/' = [47] from rfl,
    List.singleton_append, List.flatMap_cons, hslash]
  rfl

/-- The text of a path from a root begins with a slash. -/
theorem exists_toChars_eq_slash {p : Path} (h : p.isAbsolute) : ∃ s, p.toChars = '/' :: s := by
  obtain ⟨anchor, names⟩ := p
  cases anchor with
  | here => cases h
  | root => exact ⟨_, rfl⟩
  | doubleRoot => exact ⟨_, rfl⟩

/-- The URI of a path from a root is read as that path. -/
theorem toPath_ofPath {p : Path} (hp : p.Proper) (habs : p.isAbsolute) : toPath (ofPath p) = .ok p := by
  obtain ⟨s, hs⟩ := exists_toChars_eq_slash habs
  have hescaped : percentEncode p.toChars = '/' :: percentEncode s := by rw [hs, percentEncode_slash]
  have hchars : ∀ c ∈ '/' :: percentEncode s, isEscapedChar c := by
    rw [← hescaped]
    exact isEscapedChar_percentEncode
  have huri : ofPath p = String.ofList ("file://".toList ++ '/' :: percentEncode s) :=
    congrArg (fun path => String.ofList ("file://".toList ++ path)) hescaped
  have hfile := (congrArg ofString huri).trans (ofString_file hchars)
  have hback : percentDecode ('/' :: percentEncode s) = p.toChars := by
    rw [← hescaped, percentDecode_percentEncode]
  simp only [toPath, hfile, hback, ne_eq, not_true_eq_false, if_false, List.isEmpty_nil, if_true,
    Path.ofChars_toChars hp]

/-! ## Schemes -/

/-- Whether the scheme of a URI is that of files. -/
def HasFileScheme (uri : String) : Prop := (splitScheme (clean uri.toList)).1 = "file".toList

theorem bracketError?_ne_notFile (host : List Char) (uri : String) :
    bracketError? host ≠ some (.notFile uri) := by
  unfold bracketError?
  split
  next =>
    dsimp only
    split
    next =>
      intro h
      cases h
    next => simp
  next => simp

theorem authorityError?_ne_notFile (authority : List Char) (uri : String) :
    authorityError? authority ≠ some (.notFile uri) := by
  unfold authorityError?
  dsimp only
  split
  next =>
    intro h
    cases h
  next =>
    split
    next e he =>
      intro h
      cases h
      split at he
      next => exact bracketError?_ne_notFile _ _ he
      next => cases he
    next =>
      split
      next =>
        intro h
        cases h
      next =>
        intro h
        cases h

/-- Only another scheme makes a URI one that is not of a file. -/
theorem not_hasFileScheme_of_notFile {uri name : String} (h : toPath uri = .error (.notFile name)) :
    ¬ HasFileScheme uri := by
  unfold toPath at h
  split at h
  next e he =>
    cases h
    unfold ofString at he
    dsimp only at he
    split at he
    next e hauthority =>
      cases he
      exact absurd hauthority (authorityError?_ne_notFile _ _)
    next => cases he
  next parts hparts =>
    unfold ofString at hparts
    dsimp only at hparts
    split at hparts
    next => cases hparts
    next =>
      cases hparts
      split at h
      next hscheme => exact hscheme
      next => cases h

end Uri

end LintBridge
