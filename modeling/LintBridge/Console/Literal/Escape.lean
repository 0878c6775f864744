-- SUMMARY: Escapes in quoted texts, and what is wrong with them.
import LintBridge.Number.Hex
import LintBridge.Text.CharacterName

/-!
# Escapes

A backslash in a quoted text begins an escape. An escape by number needs all of its digits and has to name
a character; an escape by name needs its braces and a name in them. Places are counted in the text that the
escapes are read from, where a character above ASCII is written as an escape by number itself.
-/

namespace LintBridge.Console.Literal

/-- What is wrong with the characters of a quoted text. -/
inductive QuoteFault where
  /-- An escape is incomplete, or names no character. -/
  | escape (start stop : Nat) (problem : String)
  | byteEscape (start : Nat)
  /-- Bytes are written with characters that are none. -/
  | notBytes
  deriving DecidableEq, Repr

def QuoteFault.message : QuoteFault → String
  | .escape start stop problem =>
    s!"(unicode error) 'unicodeescape' codec can't decode bytes in position {start}-{stop - 1}: {problem}"
  | .byteEscape start => s!"(value error) invalid \\x escape at position {start}"
  | .notBytes => "bytes can only contain ASCII literal characters"

/-- The number of digits of an escape by number, and what is wrong if there are fewer. -/
def escapeDigits? : Char → Option (Nat × String)
  | 'x' => some (2, "truncated \\xXX escape")
  | 'u' => some (4, "truncated \\uXXXX escape")
  | 'U' => some (8, "truncated \\UXXXXXXXX escape")
  | _ => none

/-- The number of places that a character takes when escapes are read: ten above ASCII, else one. -/
def places (c : Char) : Nat := if c.toNat < 0x80 then 1 else 10

/-- What is wrong with an escape by name, after its two characters at a place. -/
def nameFault? (place : Nat) (s : List Char) : Option QuoteFault :=
  let problem := "malformed \\N character escape"
  match s with
  | '\x7b' :: rest =>
    let name := rest.takeWhile (· ≠ '\x7d')
    let inner := name.foldl (fun n c => n + places c) (place + 3)
    if name.length = rest.length || name.isEmpty then some (.escape place inner problem)
    else if Text.isCharacterName (String.ofList name) then none
    else some (.escape place (inner + 1) "unknown Unicode character name")
  | _ => some (.escape place (place + 2) problem)

/-- What is wrong with the escapes of a text from a place on. -/
def escapeFault? (place : Nat) : List Char → Option QuoteFault
  | [] => none
  | '\\' :: c :: rest =>
    if 0x80 ≤ c.toNat then escapeFault? (place + 6) (c :: rest)
    else
      match escapeDigits? c, nameFault? place rest with
      | some (count, problem), _ =>
        let digits := (rest.take count).filterMap Hex.digit?
        let known := ((rest.take count).takeWhile fun c => (Hex.digit? c).isSome).length
        if known < count then some (.escape place (place + 2 + known) problem)
        else if 0x10FFFF < digits.foldl (fun n d => n * 16 + d) 0 then
          some (.escape place (place + 2 + count) "illegal Unicode character")
        else escapeFault? (place + 2) rest
      | none, some fault => if c = 'N' then some fault else escapeFault? (place + 2) rest
      | none, none => escapeFault? (place + 2) rest
  | c :: rest => escapeFault? (place + places c) rest

/-- What is wrong with the escapes of bytes from a place on. -/
def byteFault? (place : Nat) : List Char → Option QuoteFault
  | [] => none
  | '\\' :: c :: rest =>
    if c = 'x' ∧ ((rest.take 2).filterMap Hex.digit?).length < 2 then some (.byteEscape place)
    else byteFault? (place + 2) rest
  | _ :: rest => byteFault? (place + 1) rest

end LintBridge.Console.Literal
