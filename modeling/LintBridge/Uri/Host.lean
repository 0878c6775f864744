-- SUMMARY: Internet addresses between the brackets of a URI's authority.
import LintBridge.Number.Decimal
import LintBridge.Number.Hex
import LintBridge.Text.Pieces
import LintBridge.Text.Quoted

/-!
# Bracketed hosts

Between brackets an authority names a host by an address of version six, or by one of a later version
that begins with the letter `v`. An address of version six has eight groups of up to four hexadecimal
digits; two colons stand for the groups left out, the last two groups may be written as an address of
version four, and a zone may follow a percent sign.
-/

namespace LintBridge.Uri

/-- A number from 0 to 255 without leading zeros. -/
def isOctet (s : List Char) : Bool :=
  !s.isEmpty && s.length ≤ 3 && s.all Decimal.isDigit && (s == ['0'] || s.head? != some '0') &&
    Decimal.value s ≤ 255

/-- An address of version four. -/
def isAddress4 (s : List Char) : Bool :=
  let octets := Text.pieces '.' s
  octets.length == 4 && octets.all isOctet

/-- A group of an address of version six. -/
def isGroup (s : List Char) : Bool := s.length ≤ 4 && s.all fun c => (Hex.digit? c).isSome

/-- The groups of an address of version six; an address of version four at the end is two of them. -/
def groupsOf (s : List Char) : Option (List (List Char)) :=
  let groups := Text.pieces ':' s
  match groups.getLast? with
  | some last =>
    if groups.length < 3 then none
    else if !last.contains '.' then some groups
    else if isAddress4 last then some (groups.dropLast ++ [['0'], ['0']])
    else none
  | none => none

/-- Whether groups make up an address: eight of them, or fewer around one gap. -/
def areGroups (groups : List (List Char)) : Bool :=
  let inner := (groups.drop 1).dropLast
  let gaps := inner.countP (·.isEmpty)
  let first := groups.head?.getD []
  let last := groups.getLast?.getD []
  if 9 < groups.length || 1 < gaps then false
  else if gaps == 0 then groups.length == 8 && groups.all fun g => !g.isEmpty && isGroup g
  else
    let before := (inner.takeWhile (!·.isEmpty)).length + 1
    let after := groups.length - before - 1
    let before := if first.isEmpty then before - 1 else before
    let after := if last.isEmpty then after - 1 else after
    !(first.isEmpty && before != 0) && !(last.isEmpty && after != 0) && before + after < 8 &&
      groups.all isGroup

/-- An address of version six, maybe with a zone. -/
def isAddress6 (s : List Char) : Bool :=
  match Text.pieces '%' s with
  | [address] => ((groupsOf address).map areGroups).getD false
  | [address, zone] => !zone.isEmpty && ((groupsOf address).map areGroups).getD false
  | _ => false

/-- An address of a later version: `v`, hexadecimal digits, a point, and more. -/
def isFutureAddress : List Char → Bool
  | 'v' :: rest =>
    let digits := rest.takeWhile fun c => (Hex.digit? c).isSome
    match rest.dropWhile fun c => (Hex.digit? c).isSome with
    | '.' :: more => !digits.isEmpty && !more.isEmpty && !more.contains '\n'
    | _ => false
  | _ => false

/-- What is wrong with a bracketed host. -/
inductive HostError where
  | notAnAddress (host : String)
  | version4
  | badFuture
  deriving DecidableEq, Repr

def HostError.message : HostError → String
  | .notAnAddress host => Text.quotedString host ++ " does not appear to be an IPv4 or IPv6 address"
  | .version4 => "An IPv4 address cannot be in brackets"
  | .badFuture => "IPvFuture address is invalid"

/-- What is wrong with a bracketed host, if anything. -/
def hostError? (host : List Char) : Option HostError :=
  if host.head? = some 'v' then if isFutureAddress host then none else some .badFuture
  else if isAddress4 host then some .version4
  else if isAddress6 host then none
  else some (.notAnAddress (String.ofList host))

end LintBridge.Uri
