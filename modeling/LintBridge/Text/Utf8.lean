-- SUMMARY: UTF-8 bytes of a text, the strict reading of bytes, and the reading that replaces malformed parts.
import LintBridge.Number.Hex

/-!
# UTF-8

The reader takes one byte at a time. Between characters it is `idle`; inside one it knows how many
bytes are owed, which bytes may come next, and the bits read so far. A malformed part is the longest
beginning of a character that the next byte does not continue, and reading goes on with that byte.
`decode?` refuses malformed parts, `read` also says what is wrong with the first of them, and `decodeLossy`
writes U+FFFD for each.
-/

namespace LintBridge.Text.Utf8

/-- The bytes of a text. -/
def encode (s : List Char) : List UInt8 := s.flatMap String.utf8EncodeChar

/-- Where the reader stands between two bytes. -/
inductive State where
  /-- Between two characters. -/
  | idle
  /-- `owed + 1` bytes are missing, the next one from `low` to `high`; `bits` are those read. -/
  | within (owed low high bits : Nat)
  deriving DecidableEq, Repr

/-- What a first byte leads to. Bytes that begin no character are malformed by themselves. -/
def first (b : Nat) : List (Option Char) × State :=
  if b < 0x80 then ([some (Char.ofNat b)], .idle)
  else if b < 0xC2 then ([none], .idle)
  else if b < 0xE0 then ([], .within 0 0x80 0xBF (b - 0xC0))
  else if b = 0xE0 then ([], .within 1 0xA0 0xBF 0)
  else if b = 0xED then ([], .within 1 0x80 0x9F (b - 0xE0))
  else if b < 0xF0 then ([], .within 1 0x80 0xBF (b - 0xE0))
  else if b = 0xF0 then ([], .within 2 0x90 0xBF 0)
  else if b < 0xF4 then ([], .within 2 0x80 0xBF (b - 0xF0))
  else if b = 0xF4 then ([], .within 2 0x80 0x8F (b - 0xF0))
  else ([none], .idle)

/-- One byte: the characters and malformed parts it completes, and the state after it. -/
def step : State → Nat → List (Option Char) × State
  | .idle, b => first b
  | .within owed low high bits, b =>
    if low ≤ b ∧ b ≤ high then
      match owed with
      | 0 => ([some (Char.ofNat (bits * 0x40 + (b - 0x80)))], .idle)
      | owed + 1 => ([], .within owed 0x80 0xBF (bits * 0x40 + (b - 0x80)))
    else
      let (parts, next) := first b
      (none :: parts, next)

/-- The characters of a byte sequence in order, `none` for each malformed part. -/
def partsFrom : State → List UInt8 → List (Option Char)
  | .idle, [] => []
  | .within .., [] => [none]
  | state, b :: rest =>
    let (parts, next) := step state b.toNat
    parts ++ partsFrom next rest

/-- All characters of a list of parts, if none is malformed. -/
def allChars? : List (Option Char) → Option (List Char)
  | [] => some []
  | none :: _ => none
  | some c :: rest => (allChars? rest).map (c :: ·)

/-- The text that bytes write; `none` when a part is malformed. -/
def decode? (bytes : List UInt8) : Option (List Char) := allChars? (partsFrom .idle bytes)

/-- What is wrong with a malformed part. -/
inductive Reason where
  | start | continuation | ending
  deriving DecidableEq, Repr

def Reason.message : Reason → String
  | .start => "invalid start byte"
  | .continuation => "invalid continuation byte"
  | .ending => "unexpected end of data"

/-- A malformed part: the place of its first byte, the place behind its last one, and what is wrong with it. -/
structure Malformed where
  first : Nat
  last : Nat
  reason : Reason
  deriving DecidableEq, Repr

/-- The first malformed part of bytes. `place` is where the reader stands, and `begun` where the character began that
it is within. -/
def malformedFrom? (place begun : Nat) : State → List UInt8 → Option Malformed
  | .idle, [] => none
  | .within .., [] => some ⟨begun, place, .ending⟩
  | .idle, b :: rest =>
    match first b.toNat with
    | ([none], _) => some ⟨place, place + 1, .start⟩
    | (_, next) => malformedFrom? (place + 1) place next rest
  | .within owed low high bits, b :: rest =>
    if low ≤ b.toNat ∧ b.toNat ≤ high then
      malformedFrom? (place + 1) begun (step (.within owed low high bits) b.toNat).2 rest
    else some ⟨begun, place, .continuation⟩

/-- What is said about bytes of which a part is malformed. -/
def Malformed.message (bytes : List UInt8) (m : Malformed) : String :=
  let reason := m.reason.message
  if m.last = m.first + 1 then
    let byte := String.ofList (Hex.lower 2 ((bytes.getD m.first 0).toNat))
    s!"'utf-8' codec can't decode byte 0x{byte} in position {m.first}: {reason}"
  else s!"'utf-8' codec can't decode bytes in position {m.first}-{m.last - 1}: {reason}"

/-- The text that bytes write, or what is said about the first malformed part. -/
def read (bytes : List UInt8) : Except String (List Char) :=
  match decode? bytes with
  | some s => .ok s
  | none => .error (((malformedFrom? 0 0 .idle bytes).map (·.message bytes)).getD "")

/-- The text that bytes write, with U+FFFD for each malformed part. -/
def decodeLossy (bytes : List UInt8) : List Char := (partsFrom .idle bytes).map (·.getD '\uFFFD')

end LintBridge.Text.Utf8
