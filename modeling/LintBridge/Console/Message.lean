-- SUMMARY: Messages to the user, and their form on the console.
import LintBridge.Console.Wrap
import LintBridge.Routine.Basic

/-!
# Messages

A message goes to the output, a failure to the error output. A symbol may stand in front of it.
-/

namespace LintBridge.Console

/-- The width of the console in columns. -/
def width : Nat := 10000

/-- Lines with their line breaks. -/
def joinLines (lines : List (List Char)) : String := String.ofList (lines.flatMap (· ++ ['\n']))

/-- The form of a message on the console. -/
def paragraph (message : String) : String := joinLines (wrap .free .fold width message.toList)

/-- The kinds of messages. -/
inductive Tone where
  | info | ok | warn | fail
  deriving DecidableEq, Repr

namespace Tone

/-- The symbol of a kind of message. -/
def symbol : Tone → String
  | .info => "\u2139\uFE0F "
  | .ok => "\u2705 "
  | .warn => "\u26A0\uFE0F "
  | .fail => "\u274C "

/-- The stream that a kind of message goes to. -/
def stream : Tone → Stream
  | .fail => .err
  | _ => .out

end Tone

/-- Show a message. -/
def say (tone : Tone) (message : String) (symbol : Bool := false) : Routine Unit :=
  Routine.step (.print tone.stream (paragraph ((if symbol then tone.symbol else "") ++ message)))

end LintBridge.Console
