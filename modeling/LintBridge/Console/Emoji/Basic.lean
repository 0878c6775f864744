-- SUMMARY: Codes in a text that stand for emoji.
import LintBridge.Console.Emoji.Names
import LintBridge.Text.Blank
import LintBridge.Text.LowerCase
import LintBridge.Text.Pieces

/-!
# Emoji codes

The name of an emoji between two colons stands for the emoji. Letters count in either case, and `-emoji`
or `-text` after the name asks for the colored or the plain form. Codes that name nothing stay as they
are.
-/

namespace LintBridge.Console

/-! ## Names -/

/-- The skin tones, each with the modifier that follows an emoji. -/
def skinTones : List (String × Char) :=
  [("light", Char.ofNat 0x1F3FB), ("medium-light", Char.ofNat 0x1F3FC), ("medium", Char.ofNat 0x1F3FD),
    ("medium-dark", Char.ofNat 0x1F3FE), ("dark", Char.ofNat 0x1F3FF)]

/-- An emoji in a skin tone: the modifier follows the first character, in place of a request for the
colored form. -/
def inTone (tone : Char) : List Char → List Char
  | c :: '\uFE0F' :: rest => c :: tone :: rest
  | c :: rest => c :: tone :: rest
  | [] => []

/-- The names that an entry gives to an emoji. -/
def namesOf (emoji : List Char) : List Char → List (List Char × List Char)
  | '~' :: name =>
    (name, emoji) :: skinTones.map fun (tone, modifier) =>
      (name ++ s!"_{tone}_skin_tone".toList, inTone modifier emoji)
  | name => [(name, emoji)]

/-- The names of an entry with their emoji. -/
def readEntry (entry : List Char) : List (List Char × List Char) :=
  (Text.pieces ',' (entry.takeWhile (· ≠ '='))).flatMap (namesOf ((entry.dropWhile (· ≠ '=')).drop 1))

/-- All names with their emoji. -/
def emojiNames : List (List Char × List Char) := (Text.words emojiEntries.toList).flatMap readEntry

/-! ## Codes -/

/-- What is in front of an ending, if a text ends with it. -/
def dropEnding? (ending : String) (s : List Char) : Option (List Char) :=
  if ending.toList.isSuffixOf s then some (s.take (s.length - ending.length)) else none

/-- The name in a code, and the character that asks for the form. -/
def codeParts (code : List Char) : List Char × List Char :=
  match dropEnding? "-emoji" code, dropEnding? "-text" code with
  | some name, _ => (name, ['\uFE0F'])
  | none, some name => (name, ['\uFE0E'])
  | none, none => (code, [])

/-- What a code between colons stands for. -/
def ofCode (code : List Char) : List Char :=
  let (name, form) := codeParts code
  match emojiNames.lookup (Text.lower name) with
  | some emoji => emoji ++ form
  | none => ':' :: code ++ [':']

/-- The rest of a text with its codes replaced; `code` holds what follows an open colon, in reverse. -/
def withEmojiFrom (code : Option (List Char)) : List Char → List Char
  | [] =>
    match code with
    | some code => ':' :: code.reverse
    | none => []
  | c :: rest =>
    match code with
    | none => if c = ':' then withEmojiFrom (some []) rest else c :: withEmojiFrom none rest
    | some code =>
      if c = ':' then ofCode code.reverse ++ withEmojiFrom none rest
      else if Text.isBlank c then ':' :: (code.reverse ++ c :: withEmojiFrom none rest)
      else withEmojiFrom (some (c :: code)) rest

/-- A text with its codes replaced by emoji. -/
def withEmoji (s : List Char) : List Char := withEmojiFrom none s

end LintBridge.Console
