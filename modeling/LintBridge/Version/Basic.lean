-- SUMMARY: Release versions of a library and the reader of their texts.
import LintBridge.Number.Decimal
import LintBridge.Text.Blank
import LintBridge.Text.Pieces

/-!
# Versions

A version text has an optional `v`, an optional epoch with an exclamation mark, a release of numbers
joined by points, and optional pre-release, post-release, development and local parts. Letters count in
either case, digits are ASCII digits. One separator may stand before and after the word of a part, a part
without a number has number zero, and blanks may surround the whole. A version whose numbers have too many
digits is refused.
-/

namespace LintBridge

/-- How far a pre-release is from its release. -/
inductive PreStage where
  | alpha | beta | candidate
  deriving DecidableEq, Repr

/-- A version, as its parts. -/
structure Version where
  epoch : Nat
  major : Nat
  /-- The release numbers after the first. -/
  minor : List Nat
  pre : Option (PreStage × Nat)
  post : Option Nat
  dev : Option Nat
  /-- The segments of the local part. -/
  build : List String
  deriving DecidableEq, Repr

namespace Version

/-! ## Pieces -/

/-- Which characters are cases of one letter. Readers of versions differ in this, so it is left open here. -/
inductive CaseRule where
  /-- The ASCII letters have two cases, and no others. -/
  | ascii
  /-- Characters beyond ASCII may be cases of ASCII letters too. -/
  | unicode
  deriving DecidableEq, Repr

/-- The characters beyond ASCII that are a case of an ASCII letter: the long s, the sign of the unit kelvin, and the
small letter without and the capital letter with a dot. -/
def otherCases : List (Char × Char) := [('\u017f', 's'), ('\u212a', 'k'), ('\u0131', 'i'), ('\u0130', 'i')]

/-- The character that one counts as where case is ignored. -/
def foldCase : CaseRule → Char → Char
  | .ascii, c => c.toLower
  | .unicode, c => (otherCases.lookup c).getD c.toLower

section

variable (rule : CaseRule)

/-- What follows a word, if the text begins with it in either case. -/
def dropWord? : List Char → List Char → Option (List Char)
  | [], s => some s
  | _ :: _, [] => none
  | w :: word, c :: s => if foldCase rule c = w then dropWord? word s else none

/-- What follows the first of some words that the text begins with, and what that word stands for. -/
def dropAnyWord? {α : Type} : List (String × α) → List Char → Option (α × List Char)
  | [], _ => none
  | (word, a) :: words, s =>
    match dropWord? rule word.toList s with
    | some rest => some (a, rest)
    | none => dropAnyWord? words s

def isSeparator (c : Char) : Bool := c == '.' || c == '_' || c == '-'

/-- The text without one separator at its beginning. -/
def dropSeparator : List Char → List Char
  | c :: rest => if isSeparator c then rest else c :: rest
  | [] => []

/-- A number, or zero when none is written. -/
def readCount (s : List Char) : Nat × List Char := (Decimal.read? s).getD (0, s)

/-- A part: a word with a separator before and after it if need be, and a number. -/
def readPart? {α : Type} (words : List (String × α)) (s : List Char) : Option ((α × Nat) × List Char) :=
  match dropAnyWord? rule words (dropSeparator s) with
  | none => none
  | some (a, rest) =>
    let (count, rest) := readCount (dropSeparator rest)
    some ((a, count), rest)

/-- A part that may be missing. -/
def optionalPart {α : Type} (read? : List Char → Option (α × List Char)) (s : List Char) :
    Option α × List Char :=
  match read? s with
  | some (a, rest) => (some a, rest)
  | none => (none, s)

/-! ## Parts -/

/-- The words of a pre-release, a longer word before its own beginning. -/
def preWords : List (String × PreStage) :=
  [("alpha", .alpha), ("a", .alpha), ("beta", .beta), ("b", .beta), ("preview", .candidate),
    ("pre", .candidate), ("c", .candidate), ("rc", .candidate)]

/-- The words of a post-release. -/
def postWords : List (String × Unit) := [("post", ()), ("rev", ()), ("r", ())]

/-- The word of a development release. -/
def devWords : List (String × Unit) := [("dev", ())]

/-- A post-release: a number right after a hyphen, or a word. -/
def readPost? (s : List Char) : Option (Nat × List Char) :=
  let word := (readPart? rule postWords s).map fun (part, rest) => (part.2, rest)
  match s with
  | '-' :: rest => (Decimal.read? rest).or word
  | _ => word

def readDev? (s : List Char) : Option (Nat × List Char) :=
  (readPart? rule devWords s).map fun (part, rest) => (part.2, rest)

/-- The release numbers after the first. `fuel` bounds their number by the length of the text. -/
def readMinor : Nat → List Char → List Nat × List Char
  | fuel + 1, '.' :: rest =>
    match Decimal.read? rest with
    | some (n, rest) =>
      let (ns, rest) := readMinor fuel rest
      (n :: ns, rest)
    | none => ([], '.' :: rest)
  | _, s => ([], s)

/-- An epoch and the exclamation mark after it. -/
def readEpoch? (s : List Char) : Option (Nat × List Char) :=
  match Decimal.read? s with
  | some (n, '!' :: rest) => some (n, rest)
  | _ => none

def isBuildChar (c : Char) : Bool := Decimal.isDigit c || ('a' ≤ foldCase rule c && foldCase rule c ≤ 'z')

/-- The segments of a local part that follow a separator or the plus sign. -/
def readSegments? : Nat → List Char → Option (List String × List Char)
  | 0, _ => none
  | fuel + 1, s =>
    let segment := s.takeWhile (isBuildChar rule)
    let rest := s.dropWhile (isBuildChar rule)
    if segment.isEmpty then none
    else
      let more := match rest with
        | c :: after => if isSeparator c then readSegments? fuel after else none
        | [] => none
      match more with
      | some (segments, rest) => some (String.ofList segment :: segments, rest)
      | none => some ([String.ofList segment], rest)

def readBuild? : List Char → Option (List String × List Char)
  | '+' :: rest => readSegments? rule (rest.length + 1) rest
  | _ => none

/-! ## Versions -/

/-- The version at the beginning of a text, and what follows it. -/
def read? (s : List Char) : Option (Version × List Char) := do
  let s := (dropWord? rule ['v'] s).getD s
  let (epoch, s) := (readEpoch? s).getD (0, s)
  let (major, s) ← Decimal.read? s
  let (minor, s) := readMinor s.length s
  let (pre, s) := optionalPart (readPart? rule preWords) s
  let (post, s) := optionalPart (readPost? rule) s
  let (dev, s) := optionalPart (readDev? rule) s
  let (build, s) := optionalPart (readBuild? rule) s
  return ({ epoch, major, minor, pre, post, dev, build := build.getD [] }, s)

/-- The version that a text writes. -/
def ofText? (s : List Char) : Option Version :=
  match read? rule (s.dropWhile Text.isBlank) with
  | some (version, rest) => if rest.all Text.isBlank then some version else none
  | none => none

/-- The numbers of a version text: the runs of digits before the local part, and the segments of the
local part that hold digits alone. -/
def numbers (s : List Char) : List (List Char) :=
  let split (inside : Char → Bool) (s : List Char) : List (List Char) :=
    Text.pieces ' ' (s.map fun c => if inside c then c else ' ')
  split Decimal.isDigit (s.takeWhile (· ≠ '+')) ++
    (split (isBuildChar rule) (s.dropWhile (· ≠ '+'))).filter (·.all Decimal.isDigit)

/-- The version that a text writes, if its numbers do not have too many digits. -/
def ofText (s : List Char) : Except Decimal.TooManyDigits (Option Version) :=
  match ofText? rule s with
  | none => .ok none
  | some version => (Decimal.checkLengths (numbers rule s)).map fun _ => some version

end

end Version

end LintBridge
