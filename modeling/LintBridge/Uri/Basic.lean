-- SUMMARY: URIs of documents: their parts, percent escapes, and the file paths they stand for.
import LintBridge.Path
import LintBridge.Text.Utf8
import LintBridge.Uri.Host

/-!
# Document URIs

A document is named by a URI of the scheme `file`. Blanks and control characters in front of a URI are
dropped, tabs and line breaks anywhere in it. The path runs up to the first question mark or number
sign; a semicolon belongs to it. Percent escapes write UTF-8 bytes, malformed ones are read as U+FFFD,
and a percent sign without two hexadecimal digits stands for itself. An authority becomes the beginning
of a path with two slashes.
-/

namespace LintBridge

/-- The parts of a URI that a path is made of. -/
structure Uri where
  scheme : List Char
  authority : List Char
  path : List Char
  deriving DecidableEq, Repr

/-- Why a URI names no file. -/
inductive UriError where
  | notFile (uri : String)
  /-- The authority has one kind of bracket only. -/
  | unbalancedBrackets
  /-- Something stands beside the brackets that is no port. -/
  | misplacedBracket
  | badHost (cause : Uri.HostError)
  /-- The authority holds a character that is compatible with a delimiter. -/
  | hiddenDelimiter (authority : String)
  deriving DecidableEq, Repr

def UriError.message : UriError → String
  | .notFile uri => s!"The provided document URI {uri} is not a file."
  | .unbalancedBrackets | .misplacedBracket => "Invalid IPv6 URL"
  | .badHost cause => cause.message
  | .hiddenDelimiter authority =>
    s!"netloc '{authority}' contains invalid characters under NFKC normalization"

namespace Uri

/-! ## Parts -/

/-- The text of a URI without what does not count in it. -/
def clean (s : List Char) : List Char :=
  (s.dropWhile (·.toNat ≤ 0x20)).filter fun c => c ≠ '\t' && c ≠ '\r' && c ≠ '\n'

def isLetter (c : Char) : Bool := ('a' ≤ c && c ≤ 'z') || ('A' ≤ c && c ≤ 'Z')

def isSchemeChar (c : Char) : Bool := isLetter c || Decimal.isDigit c || c == '+' || c == '-' || c == '.'

/-- The scheme in lower case, and what follows its colon. -/
def splitScheme (s : List Char) : List Char × List Char :=
  let scheme := s.takeWhile (· ≠ ':')
  match scheme, s.dropWhile (· ≠ ':') with
  | c :: _, _ :: rest =>
    if isLetter c && scheme.all isSchemeChar then (scheme.map Char.toLower, rest) else ([], s)
  | _, _ => ([], s)

def endsAuthority (c : Char) : Bool := c == '/' || c == '?' || c == '#'

/-- The authority after two slashes, and what follows it. -/
def splitAuthority : List Char → List Char × List Char
  | '/' :: '/' :: rest =>
    (rest.takeWhile (!endsAuthority ·), rest.dropWhile (!endsAuthority ·))
  | s => ([], s)

/-- The characters above ASCII whose compatible form holds one of the delimiters of a URI. -/
def hiddenDelimiters : List Nat :=
  [0x2047, 0x2048, 0x2049, 0x2100, 0x2101, 0x2105, 0x2106, 0x2A74, 0xFE13, 0xFE16, 0xFE55,
    0xFE56, 0xFE5F, 0xFE6B, 0xFF03, 0xFF0F, 0xFF1A, 0xFF1F, 0xFF20]

/-- The host and port of an authority: what follows its last `@`. -/
def hostAndPort (authority : List Char) : List Char :=
  (authority.reverse.takeWhile (· ≠ '@')).reverse

/-- What is wrong with the brackets of a host and port, if anything. Nothing may stand before the opening
bracket, and only a port after the closing one. Brackets that are all before the last `@` bracket no
host, but the host must be one that may stand in brackets. -/
def bracketError? (s : List Char) : Option UriError :=
  match s.takeWhile (· ≠ '['), s.dropWhile (· ≠ '[') with
  | before, _ :: rest =>
    let port := (rest.dropWhile (· ≠ ']')).drop 1
    if !before.isEmpty || !(port.isEmpty || port.head? = some ':') then some .misplacedBracket
    else (hostError? (rest.takeWhile (· ≠ ']'))).map .badHost
  | _, [] => (hostError? (s.takeWhile (· ≠ ':'))).map .badHost

/-- What is wrong with an authority, if anything. -/
def authorityError? (authority : List Char) : Option UriError :=
  let opened := authority.contains '['
  let closed := authority.contains ']'
  if opened != closed then some .unbalancedBrackets
  else
    match if opened then bracketError? (hostAndPort authority) else none with
    | some e => some e
    | none =>
      if authority.any fun c => hiddenDelimiters.contains c.toNat then
        some (.hiddenDelimiter (String.ofList authority))
      else none

/-- The parts of a URI. -/
def ofString (uri : String) : Except UriError Uri :=
  let (scheme, rest) := splitScheme (clean uri.toList)
  let (authority, rest) := splitAuthority rest
  match authorityError? authority with
  | some e => .error e
  | none => .ok { scheme, authority, path := rest.takeWhile fun c => c ≠ '#' && c ≠ '?' }

/-! ## Percent escapes -/

/-- The bytes that a text with percent escapes writes. -/
def escapedBytes : List Char → List UInt8
  | [] => []
  | '%' :: a :: b :: rest =>
    match Hex.digit? a, Hex.digit? b with
    | some high, some low => UInt8.ofNat (high * 16 + low) :: escapedBytes rest
    | _, _ => 0x25 :: escapedBytes (a :: b :: rest)
  | c :: rest => String.utf8EncodeChar c ++ escapedBytes rest

/-- The text that a text with percent escapes stands for. -/
def percentDecode (s : List Char) : List Char := Text.Utf8.decodeLossy (escapedBytes s)

/-- A byte that a path keeps in a URI. -/
def isPlainByte (b : Nat) : Bool :=
  (0x61 ≤ b && b ≤ 0x7A) || (0x41 ≤ b && b ≤ 0x5A) || (0x30 ≤ b && b ≤ 0x39) || b == 0x5F ||
    b == 0x2E || b == 0x2D || b == 0x7E || b == 0x2F

/-- A byte as a URI writes it. -/
def encodeByte (b : UInt8) : List Char :=
  if isPlainByte b.toNat then [Char.ofNat b.toNat] else '%' :: Hex.upper 2 b.toNat

/-- The text with all its bytes escaped but the plain ones. -/
def percentEncode (s : List Char) : List Char := (Text.Utf8.encode s).flatMap encodeByte

/-! ## Paths -/

/-- The path that a URI of a file stands for. -/
def toPath (uri : String) : Except UriError Path :=
  match ofString uri with
  | .error e => .error e
  | .ok parts =>
    if parts.scheme ≠ "file".toList then .error (.notFile uri)
    else
      let path := percentDecode parts.path
      .ok (Path.ofChars (if parts.authority.isEmpty then path else '/' :: '/' :: (parts.authority ++ path)))

/-- The URI of an absolute path. -/
def ofPath (p : Path) : String := String.ofList ("file://".toList ++ percentEncode p.toChars)

end Uri

end LintBridge
