-- SUMMARY: Definitions of styles, and the name that equal styles share.
import LintBridge.Console.Color

/-!
# Styles

A style switches traits on or off, sets the color of the text and of its background, and links to a
place. It is defined by words: a trait, `not` and a trait, a color, `on` and a color, `link` and a place.
Of two definitions of the same thing the later counts. Definitions of equal styles have one name.
-/

namespace LintBridge.Console

/-! ## Traits -/

/-- What a style can switch on and off. -/
inductive Trait where
  | bold | dim | italic | underline | blink | blink2 | reverse | conceal | strike | underline2 | frame
  | encircle | overline
  deriving DecidableEq, Repr

namespace Trait

/-- All traits, in the order of their mention in names of styles. -/
def all : List Trait :=
  [.bold, .dim, .italic, .underline, .blink, .blink2, .reverse, .conceal, .strike, .underline2, .frame,
    .encircle, .overline]

def name : Trait → String
  | .bold => "bold"
  | .dim => "dim"
  | .italic => "italic"
  | .underline => "underline"
  | .blink => "blink"
  | .blink2 => "blink2"
  | .reverse => "reverse"
  | .conceal => "conceal"
  | .strike => "strike"
  | .underline2 => "underline2"
  | .frame => "frame"
  | .encircle => "encircle"
  | .overline => "overline"

/-- The short words for some traits. -/
def shortWords : List (String × Trait) :=
  [("d", .dim), ("b", .bold), ("i", .italic), ("u", .underline), ("r", .reverse), ("c", .conceal),
    ("s", .strike), ("uu", .underline2), ("o", .overline)]

/-- The trait that a word stands for. -/
def ofWord? (word : String) : Option Trait := (all.find? (·.name = word)).or (shortWords.lookup word)

end Trait

/-! ## Styles -/

structure Style where
  /-- The traits that are switched, the last ones first. -/
  traits : List (Trait × Bool)
  color : Option (List Char)
  background : Option (List Char)
  link : Option (List Char)
  deriving DecidableEq, Repr

namespace Style

def plain : Style := { traits := [], color := none, background := none, link := none }

/-- A style with the definitions of some words added to it. A word that defines nothing is no color. -/
def define (style : Style) : List (List Char) → Except ColorError Style
  | [] => .ok style
  | [word] =>
    match Trait.ofWord? (String.ofList (Text.lower word)) with
    | some trait => .ok { style with traits := (trait, true) :: style.traits }
    | none => do return { style with color := some (← colorName word) }
  | word :: next :: rest =>
    match String.ofList (Text.lower word) with
    | "on" => do define { style with background := some (← colorName next) } rest
    | "not" =>
      match Trait.ofWord? (String.ofList next) with
      | some trait => define { style with traits := (trait, false) :: style.traits } rest
      | none => .error .unknown
    | "link" => define { style with link := some next } rest
    | lower =>
      match Trait.ofWord? lower with
      | some trait => define { style with traits := (trait, true) :: style.traits } (next :: rest)
      | none => do define { style with color := some (← colorName word) } (next :: rest)

/-- The style that a text defines; `none` stands for the plain style. -/
def ofText (s : List Char) : Except ColorError Style :=
  if Text.trim Text.isBlank s = "none".toList then .ok plain else plain.define (Text.words s)

/-- The name of a style: what it defines, in a fixed order. -/
def name (style : Style) : List Char :=
  let traits := Trait.all.flatMap fun trait =>
    match style.traits.lookup trait with
    | some true => [trait.name.toList]
    | some false => ["not".toList, trait.name.toList]
    | none => []
  let color := style.color.toList
  let background := style.background.elim [] fun color => ["on".toList, color]
  let link := style.link.elim [] fun place => ["link".toList, place]
  match traits ++ color ++ background ++ link with
  | [] => "none".toList
  | words => Text.joinPieces ' ' words

end Style

/-- The name under which a text is compared with others: that of the style it defines, or else the text
itself in lower case. -/
def styleName (s : List Char) : Except ColorError (List Char) :=
  match Style.ofText s with
  | .ok style => .ok style.name
  | .error .unknown => .ok (Text.lower (Text.trim Text.isBlank s))
  | .error e => .error e

end LintBridge.Console
