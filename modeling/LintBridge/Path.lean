-- SUMMARY: Paths, their texts, and the chain of directories above a path.
import LintBridge.Text.Pieces

/-!
# Paths

A path is where it starts and the names after that. Empty names and single points vanish when a text
is read, a double point stays. Two leading slashes are a root of their own; three or more count as one.
-/

namespace LintBridge

/-- Where a path starts. -/
inductive Anchor where
  /-- In the working directory. -/
  | here
  | root
  /-- At the root that two slashes write. -/
  | doubleRoot
  deriving DecidableEq, Repr

structure Path where
  anchor : Anchor
  names : List String
  deriving DecidableEq, Repr

namespace Path

/-! ## Texts -/

/-- The names in a text: its parts that are not empty and not a single point. -/
def namesIn (s : List Char) : List String :=
  ((Text.pieces '/' s).filter fun part => part ≠ [] && part ≠ ['.']).map String.ofList

def anchorOf : List Char → Anchor
  | '/' :: '/' :: '/' :: _ => .root
  | '/' :: '/' :: _ => .doubleRoot
  | '/' :: _ => .root
  | _ => .here

/-- The path that a text writes. -/
def ofChars (s : List Char) : Path := ⟨anchorOf s, namesIn s⟩

def ofString (s : String) : Path := ofChars s.toList

/-- Names joined by slashes. -/
def joinNames (names : List String) : List Char := Text.joinPieces '/' (names.map String.toList)

/-- The text of a path. -/
def toChars (p : Path) : List Char :=
  match p.anchor, p.names with
  | .here, [] => ['.']
  | .here, names => joinNames names
  | .root, names => '/' :: joinNames names
  | .doubleRoot, names => '/' :: '/' :: joinNames names

def text (p : Path) : String := String.ofList p.toChars

/-! ## Neighbours -/

/-- The directory that holds a path; a path without names is its own parent. -/
def parent (p : Path) : Path := { p with names := p.names.dropLast }

/-- The last name, empty for a path without names. -/
def name (p : Path) : String := p.names.getLast?.getD ""

/-- The path `q` as seen from `p`; a `q` with a root replaces `p`. -/
def join (p q : Path) : Path :=
  match q.anchor with
  | .here => { p with names := p.names ++ q.names }
  | _ => q

/-- The path of an entry of a directory. -/
def child (p : Path) (name : String) : Path := p.join (ofString name)

/-- Starts at a root. -/
def isAbsolute (p : Path) : Bool := p.anchor != .here

/-! ## Ancestors -/

theorem parent_names_lt {p : Path} (h : p.parent ≠ p) : p.parent.names.length < p.names.length := by
  obtain ⟨anchor, names⟩ := p
  cases names with
  | nil => exact absurd rfl h
  | cons n ns => simp [parent]

/-- Whether `count` directories are fewer than a limit. -/
def withinLimit (limit : Option Int) (count : Nat) : Bool :=
  match limit with
  | none => true
  | some n => (count : Int) < n

/-- The walk up from a path after some directories have been visited. It ends at the limit, at a
directory visited before, and after the last directory. -/
def ascend (limit : Option Int) (visited : List Path) (p : Path) : List Path :=
  if withinLimit limit visited.length && !visited.contains p then
    if _ : p.parent = p then [p] else p :: ascend limit (p :: visited) p.parent
  else []
termination_by p.names.length
decreasing_by exact parent_names_lt ‹_›

/-- A path and the directories above it, at most as many as the limit. -/
def ancestors (limit : Option Int) (p : Path) : List Path := ascend limit [] p

end Path

end LintBridge
