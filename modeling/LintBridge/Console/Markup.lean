-- SUMMARY: Tags in brackets, and the text that is left without them.
import LintBridge.Console.Emoji.Basic
import LintBridge.Console.Literal.Reader
import LintBridge.Console.Style
import LintBridge.Text.Quoted
import LintBridge.Text.Word

/-!
# Markup

Titles and cells may hold tags in brackets, which style the text after them. A tag begins with a small
letter, a number sign, an at sign or a slash; a slash closes an open tag, the one of its name or else the
last. Tags of equal styles have one name. A tag with an at sign names a handler, and has to give it
literals when it is closed. A backslash before a tag makes it text, and two backslashes stand for one.
Since the console shows no styles, all that matters of a tag is that it is not shown, that it closes what
is open, and that it can be understood. Codes of emoji are replaced between tags.
-/

namespace LintBridge.Console

/-- A part of a text: characters that are shown, or a tag with the place of its bracket. -/
inductive MarkupPiece where
  | text (s : List Char)
  | tag (place : Nat) (label : List Char)
  deriving DecidableEq, Repr

/-- Why a text with tags cannot be shown. -/
inductive MarkupError where
  /-- A tag closes one that is not open. -/
  | notOpen (label : String) (place : Nat)
  /-- A tag closes the last one, but none is open. -/
  | nothingOpen (place : Nat)
  /-- The arguments of a handler, a part of what its tag gives, are no literals. -/
  | arguments (given arguments : List Char) (fault : Literal.Fault)
  /-- The color of a tag cannot be read. -/
  | color (cause : ColorError)
  deriving DecidableEq, Repr

def MarkupError.message : MarkupError → String
  | .notOpen label place => s!"closing tag '[{label}]' at position {place} doesn't match any open tag"
  | .nothingOpen place => s!"closing tag '[/]' at position {place} has nothing to close"
  | .arguments given part fault =>
    let subject := if fault.isSyntactic then Text.quoted (.ofChars part) ++ " in ".toList else []
    let whole := String.ofList (subject ++ Text.quoted (.ofChars given))
    s!"error parsing {whole}; {fault.message}"
  | .color cause => cause.message

/-! ## Pieces -/

/-- A character that a tag can begin with. -/
def beginsTag (c : Char) : Bool := ('a' ≤ c && c ≤ 'z') || c == '#' || c == '/' || c == '@'

/-- The label of a tag whose opening bracket stands before the text. -/
def tagLabel? : List Char → Option (List Char)
  | [] => none
  | c :: rest =>
    let isInner (c : Char) : Bool := c ≠ '[' && c ≠ ']'
    if beginsTag c && (rest.dropWhile isInner).head? = some ']' then some (c :: rest.takeWhile isInner)
    else none

/-- A text with each bracket that a backslash stands before freed of it. -/
def freeBrackets : List Char → List Char
  | '\\' :: '[' :: rest => '[' :: freeBrackets rest
  | c :: rest => c :: freeBrackets rest
  | [] => []

/-- A tag and the backslashes before it: each two are one backslash, and a single one makes the tag a
text. -/
def tagPieces (slashes place : Nat) (label : List Char) : List MarkupPiece :=
  .text (List.replicate (slashes / 2) '\\') ::
    [if slashes % 2 = 0 then .tag place label else .text ('[' :: label ++ [']'])]

/-- The pieces of the rest of a text from a place on. `plain` holds the characters since the last tag in
reverse, and `skipped` counts those that still belong to the last tag. -/
def markupFrom (place : Nat) (plain : List Char) (skipped : Nat) : List Char → List MarkupPiece
  | [] => [.text (freeBrackets plain.reverse)]
  | c :: rest =>
    match skipped, if c = '[' then tagLabel? rest else none with
    | skipped + 1, _ => markupFrom (place + 1) plain skipped rest
    | 0, none => markupFrom (place + 1) (c :: plain) 0 rest
    | 0, some label =>
      let before := plain.dropWhile (· = '\\')
      .text (freeBrackets before.reverse) ::
        tagPieces (plain.length - before.length) place label ++
          markupFrom (place + 1) [] (label.length + 1) rest

/-- The pieces of a text with tags. -/
def markupPieces (s : List Char) : List MarkupPiece := markupFrom 0 [] 0 s

/-! ## Open tags -/

/-- A tag that is open: its name, and what follows the equals sign after it. -/
structure OpenTag where
  name : List Char
  given : List Char
  deriving DecidableEq, Repr

/-- The arguments in what a tag gives to a handler. After a name in front of them they stand in
parentheses; a name alone gives none. -/
def handlerArguments (given : List Char) : List Char :=
  match given.dropWhile fun c => Text.isWordChar c || c == '.' with
  | [] => ['(', ')']
  | '(' :: rest =>
    if rest.getLast? = some ')' && !rest.contains '\n' then '(' :: rest else given
  | _ => given

/-- Refuses a handler without literals, when its tag is closed. -/
def OpenTag.close (tag : OpenTag) : Except MarkupError Unit :=
  if tag.name.head? ≠ some '@' ∨ tag.given.isEmpty then .ok ()
  else
    let arguments := handlerArguments (Text.trim Text.isBlank tag.given)
    (Literal.checkText arguments).mapError (.arguments tag.given arguments)

/-- The open tags without the last one of a name, which is closed. The last one opened comes first. -/
def closeNamed? (name : List Char) : List OpenTag → Option (Except MarkupError (List OpenTag))
  | [] => none
  | tag :: opened =>
    if tag.name = name then some (tag.close.map fun _ => opened)
    else (closeNamed? name opened).map fun rest => rest.map (tag :: ·)

/-- The tags that are open after a tag; the last one opened comes first. -/
def afterTag (opened : List OpenTag) (place : Nat) (label : List Char) :
    Except MarkupError (List OpenTag) := do
  match label.takeWhile (· ≠ '=') with
  | '/' :: closed =>
    if (Text.trim Text.isBlank closed).isEmpty then
      match opened with
      | [] => throw (.nothingOpen place)
      | tag :: opened => return (← tag.close.map fun _ => opened)
    else
      match closeNamed? (← (styleName closed).mapError .color) opened with
      | some opened => opened
      | none => throw (.notOpen (String.ofList label) place)
  | name =>
    let given := (label.dropWhile (· ≠ '=')).drop 1
    return { name := ← (styleName name).mapError .color, given } :: opened

/-! ## Shown text -/

/-- The text that pieces show, with some tags open before them. -/
def shownFrom (opened : List OpenTag) : List MarkupPiece → Except MarkupError (List Char)
  | [] => .ok []
  | .text s :: rest => do return withEmoji s ++ (← shownFrom opened rest)
  | .tag place label :: rest => do shownFrom (← afterTag opened place label) rest

/-- The text that is left without its tags. -/
def withoutTags (s : String) : Except MarkupError String := do
  return String.ofList (← shownFrom [] (markupPieces s.toList))

/-- The first color of a text that cannot be read and stands after the name of a tag. Such a color is told
only when the text is put on the console, after all texts are read. -/
def lateColorFault? (s : String) : Option ColorError :=
  (markupPieces s.toList).findSome? fun
    | .text _ => none
    | .tag _ label =>
      let given := (label.dropWhile (· ≠ '=')).drop 1
      match styleName (label.takeWhile (· ≠ '=')) with
      | .error _ => none
      | .ok name =>
        match Style.ofText (name ++ ' ' :: given) with
        | .error .unknown | .ok _ => none
        | .error cause => some cause

end LintBridge.Console
