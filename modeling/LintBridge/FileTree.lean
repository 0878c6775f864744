-- SUMMARY: File trees with links, look-ups in them, and the resolved form of a path.
import LintBridge.Path
import LintBridge.Table

/-!
# File trees

A tree maps names from the root to directories, files and symbolic links. A look-up follows links, at
most forty of them, a double point leads to the directory above the one that was reached, and a single
point in a link stays in a directory. Every change of a file raises its modification count. `realPath`
resolves a path as far as links exist and keeps the names that do not.
-/

namespace LintBridge

/-- The content of a file. -/
abbrev Bytes := List UInt8

/-- What stands at a place in a tree. -/
inductive Node where
  | directory
  /-- A file with the count of its changes; a file without content cannot be opened. -/
  | file (content : Option Bytes) (modified : Nat)
  | link (target : String)
  deriving DecidableEq, Repr

/-- Why a path cannot be opened. -/
inductive FileError where
  | missing
  | notDirectory
  | isDirectory
  | tooManyLinks
  | denied
  /-- The path holds a NUL character. -/
  | nulCharacter
  /-- Another refusal of the system, by its number and words. -/
  | other (number : Nat) (words : String)
  deriving DecidableEq, Repr

/-- Whether an error says that nothing stands at a path. -/
def FileError.isAbsence : FileError → Bool
  | .missing | .notDirectory | .tooManyLinks | .nulCharacter => true
  | .isDirectory | .denied | .other .. => false

/-- How writing a file is broken off. -/
structure WriteFault where
  cause : FileError
  /-- The number of bytes that were written before. A file that was not opened keeps its content. -/
  written : Option Nat := none
  deriving DecidableEq, Repr

/-- Places with what stands there, and the working directory. Each place is listed once, after the
directories above it. -/
structure FileTree where
  nodes : List (List String × Node)
  workingDirectory : List String
  deriving DecidableEq, Repr

namespace FileTree

/-- What stands at a place; the root is a directory. -/
def node? (t : FileTree) (place : List String) : Option Node :=
  if place = [] then some .directory else Table.find? t.nodes place

/-! ## Look-ups -/

/-- The names that a link leads along: the parts of its text that are not empty. -/
def linkNames (target : String) : List String :=
  ((Text.pieces '/' target.toList).filter (· ≠ [])).map String.ofList

/-- Where the names that a link leads along begin, if the link is in a directory. -/
def linkStart (here : List String) (target : String) : List String :=
  if (Path.ofString target).isAbsolute then [] else here

/-- The place that names lead to from a place. Nothing needs to stand there, but the directory above it
exists. `follow` goes on from where a link begins with the names it leads along and those after it. -/
def walkNames (t : FileTree) (follow : List String → List String → Except FileError (List String))
    (here : List String) : List String → Except FileError (List String)
  | [] => .ok here
  | name :: rest =>
    match t.node? here with
    | some .directory =>
      if name = ".." then t.walkNames follow here.dropLast rest
      else if name = "." then t.walkNames follow here rest
      else
        match t.node? (here ++ [name]) with
        | some (.link target) => follow (linkStart here target) (linkNames target ++ rest)
        | _ => t.walkNames follow (here ++ [name]) rest
    | some _ => .error .notDirectory
    | none => .error .missing

/-- The place that names lead to from a place, following at most `hops` links. -/
def walk (t : FileTree) : (hops : Nat) → (here names : List String) → Except FileError (List String)
  | 0 => t.walkNames fun _ _ => .error .tooManyLinks
  | hops + 1 => t.walkNames (t.walk hops)

/-- The number of links that a look-up follows. -/
def maxHops : Nat := 40

/-- Where a look-up of a path begins. -/
def origin (t : FileTree) (p : Path) : List String :=
  if p.isAbsolute then [] else t.workingDirectory

def hasNul (p : Path) : Bool := p.names.any (·.toList.contains '\x00')

/-- The place that a path leads to, where nothing needs to stand. -/
def placeOf (t : FileTree) (p : Path) : Except FileError (List String) :=
  if hasNul p then .error .nulCharacter else t.walk maxHops (t.origin p) p.names

/-- The place and node that a path leads to. -/
def lookup (t : FileTree) (p : Path) : Except FileError (List String × Node) := do
  let place ← t.placeOf p
  match t.node? place with
  | some node => return (place, node)
  | none => throw .missing

/-- Whether a path leads to a file. -/
def isFile (t : FileTree) (p : Path) : Bool :=
  match t.lookup p with
  | .ok (_, .file ..) => true
  | _ => false

/-- The content of the file that a path leads to. -/
def read (t : FileTree) (p : Path) : Except FileError Bytes :=
  match t.lookup p with
  | .ok (_, .file (some content) _) => .ok content
  | .ok (_, .file none _) => .error .denied
  | .ok _ => .error .isDirectory
  | .error e => .error e

/-- The modification count of the file that a path leads to; a directory never changes. -/
def modified (t : FileTree) (p : Path) : Except FileError Nat :=
  match t.lookup p with
  | .ok (_, .file _ count) => .ok count
  | .ok _ => .ok 1
  | .error e => .error e

/-! ## Changes -/

/-- The tree with a node at a place. -/
def set (t : FileTree) (place : List String) (node : Node) : FileTree :=
  { t with nodes := Table.put place node t.nodes }

/-- The tree with directories at all places above names, below a place. -/
def withDirectories (t : FileTree) (here : List String) : List String → FileTree
  | [] | [_] => t
  | name :: rest =>
    let here := here ++ [name]
    let t := if (t.node? here).isSome then t else t.set here .directory
    t.withDirectories here rest

/-- The tree with a node at a place, and directories above it. -/
def insert (t : FileTree) (place : List String) (node : Node) : FileTree :=
  (t.withDirectories [] place).set place node

/-- The tree without what stands at a place. -/
def erase (t : FileTree) (place : List String) : FileTree :=
  { t with nodes := Table.erase place t.nodes }

/-- The tree after the file that a path leads to has been given a content. A file is made where nothing
stands. -/
def write (t : FileTree) (p : Path) (content : Bytes) : Except FileError FileTree := do
  let place ← t.placeOf p
  match t.node? place with
  | some (.file (some _) count) => return t.set place (.file (some content) (count + 1))
  | some (.file none _) => throw .denied
  | some _ => throw .isDirectory
  | none => return t.set place (.file (some content) 1)

/-- The tree after the file that a path leads to has been marked as changed. -/
def touch (t : FileTree) (p : Path) : FileTree :=
  match t.lookup p with
  | .ok (place, .file content count) => t.set place (.file content (count + 1))
  | _ => t

/-! ## Resolved paths -/

/-- The place that names stand for below a resolved place, and whether all links could be resolved.
`unfinished` lists the links being resolved; the first one met again is kept with the names after it.
`enter` resolves the names of a link. -/
def resolveNames (t : FileTree)
    (enter : List (List String) → List String → List String → List String × Bool)
    (unfinished : List (List String)) (here : List String) : List String → List String × Bool
  | [] => (here, true)
  | name :: rest =>
    if name = ".." then t.resolveNames enter unfinished here.dropLast rest
    else
      let next := here ++ [name]
      match t.node? next with
      | some (.link target) =>
        if unfinished.contains next then (next ++ rest, false)
        else
          let (there, complete) :=
            enter (next :: unfinished) (linkStart here target) (Path.ofString target).names
          if complete then t.resolveNames enter unfinished there rest else (there ++ rest, false)
      | _ => t.resolveNames enter unfinished next rest

/-- The same with links inside links up to a depth. -/
def resolveFrom (t : FileTree) :
    (depth : Nat) → (unfinished : List (List String)) → (here names : List String) → List String × Bool
  | 0 => t.resolveNames fun _ here names => (here ++ names, false)
  | depth + 1 => t.resolveNames (t.resolveFrom depth)

/-- Names with each double point taken back together with the name before it. -/
def collapse (names : List String) : List String :=
  (names.foldl (fun done name => if name = ".." then done.drop 1 else name :: done) []).reverse

/-- The absolute path without links and double points that a path stands for. There are never more links
unfinished than nodes. -/
def realPath (t : FileTree) (p : Path) : Path :=
  ⟨.root, collapse (t.resolveFrom (t.nodes.length + 1) [] (t.origin p) p.names).1⟩

/-- Why a path cannot be resolved. -/
inductive ResolveError where
  | nulCharacter
  /-- The links of a path lead back to themselves. -/
  | loop (p : Path)
  deriving DecidableEq, Repr

/-- The resolved form of a path, which must not end in links that lead back to themselves. -/
def resolve (t : FileTree) (p : Path) : Except ResolveError Path :=
  if hasNul p then .error .nulCharacter
  else
    let found := t.realPath p
    match t.lookup found with
    | .error .tooManyLinks => .error (.loop found)
    | _ => .ok found

end FileTree

end LintBridge
