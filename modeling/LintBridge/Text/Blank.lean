-- SUMMARY: Blank characters, trimming, words, and the lines of program output.

/-!
# Blanks

Two sets of blank characters are in use. `isBlank` is the wider one, with the four information
separators U+001C to U+001F; version texts and program output are trimmed of it. `isSpace` is the
Unicode property White_Space; numbers in settings are trimmed of that.
-/

namespace LintBridge.Text

/-- A character of the Unicode property White_Space. -/
def isSpace (c : Char) : Bool :=
  let n := c.toNat
  (0x09 ≤ n && n ≤ 0x0D) || n == 0x20 || n == 0x85 || n == 0xA0 || n == 0x1680 ||
    (0x2000 ≤ n && n ≤ 0x200A) || n == 0x2028 || n == 0x2029 || n == 0x202F || n == 0x205F ||
    n == 0x3000

/-- White space or an information separator. -/
def isBlank (c : Char) : Bool := isSpace c || (0x1C ≤ c.toNat && c.toNat ≤ 0x1F)

/-- `s` without the characters of the class at its two ends. -/
def trim (blank : Char → Bool) (s : List Char) : List Char :=
  ((s.dropWhile blank).reverse.dropWhile blank).reverse

/-- The words of `s`: its runs of characters other than blanks. `word` holds the current one in
reverse. -/
def wordsFrom (word : List Char) : List Char → List (List Char)
  | [] => if word.isEmpty then [] else [word.reverse]
  | c :: rest =>
    if !isBlank c then wordsFrom (c :: word) rest
    else if word.isEmpty then wordsFrom [] rest
    else word.reverse :: wordsFrom [] rest

/-- The words of `s`. -/
def words (s : List Char) : List (List Char) := wordsFrom [] s

/-- A character that ends a line of program output. -/
def isLineBreak (c : Char) : Bool :=
  let n := c.toNat
  (0x0A ≤ n && n ≤ 0x0D) || (0x1C ≤ n && n ≤ 0x1E) || n == 0x85 || n == 0x2028 || n == 0x2029

/-- The lines of `s` without their breaks, where CR LF is one break. `line` holds the current line
in reverse; what follows the last break is a line only if it is not empty. -/
def outputLinesFrom (line : List Char) : List Char → List (List Char)
  | [] => if line.isEmpty then [] else [line.reverse]
  | '\r' :: '\n' :: rest => line.reverse :: outputLinesFrom [] rest
  | c :: rest =>
    if isLineBreak c then line.reverse :: outputLinesFrom [] rest
    else outputLinesFrom (c :: line) rest

/-- The lines of program output. -/
def outputLines (s : List Char) : List (List Char) := outputLinesFrom [] s

/-- `s` with each CR LF and each single CR read as LF. -/
def unifyNewlines : List Char → List Char
  | [] => []
  | '\r' :: '\n' :: rest => '\n' :: unifyNewlines rest
  | '\r' :: rest => '\n' :: unifyNewlines rest
  | c :: rest => c :: unifyNewlines rest

end LintBridge.Text
