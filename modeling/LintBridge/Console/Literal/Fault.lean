-- SUMMARY: Why a text is no literal.
import LintBridge.Console.Literal.Token

/-!
# Faults of literals

A text can be misspelled, its tokens can be in no order that makes an expression, or the expression can be
no literal. The first two are faults of the text itself; some orders of tokens have a message of their own.
-/

namespace LintBridge.Console.Literal

/-- What is wrong with the parameters of a function without a name. -/
inductive ParameterFault where
  /-- A parameter without a default follows one that has one. -/
  | lateRequired
  | parenthesized
  | nothingBeforeSlash
  | secondSlash
  | slashAfterStar
  /-- A slash and a star have no comma between them. -/
  | commaMissing
  /-- Nothing follows a star that stands alone. -/
  | bareStar
  | secondStar
  /-- The parameter for all other arguments has a default. -/
  | starDefault
  /-- The parameter for all other named arguments has a default. -/
  | doubleStarDefault
  | afterDoubleStar
  | defaultMissing
  deriving DecidableEq, Repr

def ParameterFault.message : ParameterFault → String
  | .lateRequired => "non-default argument follows default argument"
  | .parenthesized => "Lambda expression parameters cannot be parenthesized"
  | .nothingBeforeSlash => "at least one argument must precede /"
  | .secondSlash => "/ may appear only once"
  | .slashAfterStar => "/ must be ahead of *"
  | .commaMissing => "expected comma between / and *"
  | .bareStar => "named arguments must follow bare *"
  | .secondStar => "* argument may appear only once"
  | .starDefault => "var-positional argument cannot have default value"
  | .doubleStarDefault => "var-keyword argument cannot have default value"
  | .afterDoubleStar => "arguments cannot follow var-keyword argument"
  | .defaultMissing => "expected default value expression"

/-- What is wrong with the braces of a quoted text that holds expressions. -/
inductive FillFault where
  | unclosed
  /-- A closing brace stands alone between the expressions. -/
  | loneBrace
  | tooDeep
  | backslash
  | comment
  | tooManyBrackets
  | unmatched (bracket : Char)
  | mismatched (closing opening : Char)
  | unterminated
  | conversion
  /-- There is no expression before one of the signs that end it. -/
  | missing (sign : Char)
  deriving DecidableEq, Repr

def FillFault.message : FillFault → String
  | .unclosed => "f-string: expecting '\x7d'"
  | .loneBrace => "f-string: single '\x7d' is not allowed"
  | .tooDeep => "f-string: expressions nested too deeply"
  | .backslash => "f-string expression part cannot include a backslash"
  | .comment => "f-string expression part cannot include '#'"
  | .tooManyBrackets => "f-string: too many nested parenthesis"
  | .unmatched bracket => s!"f-string: unmatched '{bracket}'"
  | .mismatched closing opening =>
    s!"f-string: closing parenthesis '{closing}' does not match opening parenthesis '{opening}'"
  | .unterminated => "f-string: unterminated string"
  | .conversion => "f-string: invalid conversion character: expected 's', 'r', or 'a'"
  | .missing sign =>
    if sign = '\x7d' then "f-string: empty expression not allowed"
    else s!"f-string: expression required before '{sign}'"

/-- Why a text is no literal. -/
inductive Fault where
  | misspelled (cause : Misspelling)
  /-- The tokens are in no order that makes an expression. -/
  | disorder
  /-- A line begins with blanks. -/
  | indented
  /-- Two expressions follow each other. -/
  | commaMissing
  | elseMissing
  /-- A name is followed by an equals sign. -/
  | nameEquals
  /-- An expression of a kind is followed by an equals sign. -/
  | equals (kind : String)
  /-- An argument of a call is followed by an equals sign. -/
  | argumentEquals
  /-- An expression of a kind is assigned to within an expression. -/
  | assigned (kind : String)
  /-- Something of a kind cannot be assigned to. -/
  | target (kind : String)
  | colonMissing
  | valueMissing
  | starredValue
  | starred
  | doubleStarred
  /-- A star has nothing after it. -/
  | loneStar
  /-- An argument follows one with a name, or members that are taken from elsewhere. -/
  | lateArgument (isUnpacked : Bool)
  /-- Arguments that are taken from elsewhere follow named ones that are. -/
  | lateStar
  | bareGenerator
  /-- The elements of a comprehension are taken from elsewhere. -/
  | starredElement
  | doubleStarredElement
  /-- Several elements of a comprehension have no brackets. -/
  | bareElements
  | parameter (cause : ParameterFault)
  /-- An old command is followed by an expression. -/
  | oldCommand (name : String)
  | tooManyDigits (cause : Decimal.TooManyDigits)
  | quote (cause : QuoteFault)
  /-- Quoted characters are followed by quoted bytes, or the other way round. -/
  | mixedQuotes
  | fill (cause : FillFault)
  /-- Something is wrong with an expression in a quoted text. -/
  | inQuoted (cause : Fault)
  | nulCharacter
  | tooDeep
  /-- The expression is no literal. -/
  | malformed
  /-- The members of a dictionary are taken from elsewhere. -/
  | unpacked
  /-- A value of a kind cannot be a key or a member of a set. -/
  | unhashable (kind : String)
  /-- A huge integer is added to an imaginary number. -/
  | tooLarge
  deriving DecidableEq, Repr

namespace Fault

def message : Fault → String
  | .misspelled cause => cause.message
  | .disorder => "invalid syntax"
  | .indented => "unexpected indent"
  | .commaMissing => "invalid syntax. Perhaps you forgot a comma?"
  | .elseMissing => "expected 'else' after 'if' expression"
  | .nameEquals => "invalid syntax. Maybe you meant '==' or ':=' instead of '='?"
  | .equals kind => s!"cannot assign to {kind} here. Maybe you meant '==' instead of '='?"
  | .argumentEquals => "expression cannot contain assignment, perhaps you meant \"==\"?"
  | .assigned kind => s!"cannot use assignment expressions with {kind}"
  | .target kind => s!"cannot assign to {kind}"
  | .colonMissing => "':' expected after dictionary key"
  | .valueMissing => "expression expected after dictionary key and ':'"
  | .starredValue => "cannot use a starred expression in a dictionary value"
  | .starred => "cannot use starred expression here"
  | .doubleStarred => "cannot use double starred expression here"
  | .loneStar => "Invalid star expression"
  | .lateArgument isUnpacked =>
    "positional argument follows keyword argument" ++ if isUnpacked then " unpacking" else ""
  | .lateStar => "iterable argument unpacking follows keyword argument unpacking"
  | .bareGenerator => "Generator expression must be parenthesized"
  | .starredElement => "iterable unpacking cannot be used in comprehension"
  | .doubleStarredElement => "dict unpacking cannot be used in dict comprehension"
  | .bareElements => "did you forget parentheses around the comprehension target?"
  | .parameter cause => cause.message
  | .oldCommand name => s!"Missing parentheses in call to '{name}'. Did you mean {name}(...)?"
  | .tooManyDigits cause =>
    cause.message ++ " - Consider hexadecimal for huge integer literals to avoid decimal conversion limits."
  | .quote cause => cause.message
  | .mixedQuotes => "cannot mix bytes and nonbytes literals"
  | .fill cause => cause.message
  | .inQuoted cause => "f-string: " ++ cause.message
  | .nulCharacter => "source code string cannot contain null bytes"
  | .tooDeep => ""
  | .malformed => "malformed node or string on line 1"
  | .unpacked => "malformed node or string: None"
  | .unhashable kind => s!"unhashable type: '{kind}'"
  | .tooLarge => "int too large to convert to float"

/-- Whether the text is no expression at all, rather than one without a value. -/
def isSyntactic : Fault → Bool
  | .nulCharacter | .tooDeep | .malformed | .unpacked | .unhashable _ | .tooLarge => false
  | _ => true

/-- A fault in an expression that stands in a quoted text. What is misspelled there, or is in a quoted text
within it, is told as it is. -/
def quotedWithin : Fault → Fault
  | .inQuoted cause => .inQuoted cause
  | .misspelled cause => if cause.isGrave then .misspelled cause else .inQuoted (.misspelled cause)
  | cause => if cause.isSyntactic then .inQuoted cause else cause

end Fault

end LintBridge.Console.Literal
