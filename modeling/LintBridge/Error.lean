-- SUMMARY: Why a lint request fails.
import LintBridge.Console.Markup
import LintBridge.Failure.Payload
import LintBridge.FileTree
import LintBridge.Json.Reader
import LintBridge.Text.Position
import LintBridge.Uri.Basic

/-!
# Errors of a request

A request can fail while its document is found, while the library and the configuration are resolved,
and in the library itself. The service answers these failures. The others leave it: a URI or a path
that cannot be read, a manifest that is not UTF-8, a text beyond a limit of the reader, places in the
text that no editor can show, links that lead back to themselves, a path that the system does not look
up, a time that it cannot wait, tags that close nothing, a text that has no bytes, and a file that cannot be
written.
-/

namespace LintBridge

/-- What the system says by itself, without the path that it says it about. -/
def FileError.words : FileError → String
  | .missing => "[Errno 2] No such file or directory"
  | .denied => "[Errno 13] Permission denied"
  | .notDirectory => "[Errno 20] Not a directory"
  | .isDirectory => "[Errno 21] Is a directory"
  | .tooManyLinks => "[Errno 40] Too many levels of symbolic links"
  | .nulCharacter => "embedded null byte"
  | .other number words => s!"[Errno {number}] {words}"

/-- What the system says about a path that it cannot open. -/
def FileError.message (file : Path) (e : FileError) : String :=
  match e with
  | .nulCharacter => e.words
  | _ => e.words ++ ": " ++ Text.quotedString (.ofChars file.toChars)

/-- What the system says about a file that it cannot write; one that was opened is not named. -/
def WriteFault.message (file : Path) (fault : WriteFault) : String :=
  match fault.written with
  | none => fault.cause.message file
  | some _ => fault.cause.words

/-- A failure of the library, or of the program that drives it. -/
inductive BridgeError where
  /-- The program ended with a status other than zero. -/
  | exited (package : String) (status : Int) (stderr : Option String)
  | notStarted (reason : String)
  /-- The library threw. -/
  | thrown (message : Text.Codes) (stack : Option Text.Codes)
  | notJson (package : String) (stderr : Option String)
  | notObject
  /-- The configuration is not an object. -/
  | badConfiguration (kind : Json.Kind)
  /-- The result is not a list of failures. -/
  | badResult (cause : PayloadError)
  deriving Repr

namespace BridgeError

def message : BridgeError → Text.Codes
  | .exited package status _ => s!"{package} bridge exited with status {status}"
  | .notStarted reason => s!"unable to start node: {reason}"
  | .thrown message _ => message
  | .notJson package _ => s!"{package} bridge returned invalid JSON"
  | .notObject => "bridge response must be an object"
  | .badConfiguration kind => s!"configuration loader returned {kind.name}"
  | .badResult cause => cause.message

/-- What the failed program wrote about its failure. -/
def stderr : BridgeError → Option Text.Codes
  | .exited _ _ stderr => stderr.map .ofString
  | .thrown _ stack => stack
  | .notJson _ stderr => stderr.map .ofString
  | _ => none

/-- Whether the program answered with something that is no valid response. -/
def isProtocolError : BridgeError → Bool
  | .notJson .. | .notObject | .badConfiguration _ | .badResult _ => true
  | _ => false

end BridgeError

/-- Why a lint request fails. -/
inductive LintError where
  | uri (cause : UriError)
  | notOpen (uri : String)
  | noLibrary (package : String) (file : Path)
  | noConfiguration (filename : String) (file : Path)
  | bridge (cause : BridgeError)
  /-- The library reports a place before the beginning of the text. -/
  | placeRefused (report : Report)
  /-- A failure is at a place that no editor can show. -/
  | position (cause : Text.PositionError)
  /-- A manifest is not UTF-8. -/
  | notUtf8
  /-- A manifest, a version or a response goes beyond a limit of the reader. -/
  | beyondLimit (limit : Json.Limit)
  /-- A path holds a NUL character. -/
  | nulInPath
  /-- The links of a path lead back to themselves. -/
  | linkLoop (file : Path)
  /-- The system does not say whether a path leads to a file. -/
  | unsearchable (file : Path) (cause : FileError)
  /-- The time that a lint run may take is longer than the system can wait. -/
  | unwaitable (reason : String)
  /-- A listing has a tag that closes nothing. -/
  | markup (cause : Console.MarkupError)
  /-- A text that is to be written has no bytes. -/
  | unencodable (fault : Text.Codes.EncodeFault)
  | unwritable (file : Path) (cause : WriteFault)
  deriving Repr

namespace LintError

def message : LintError → Text.Codes
  | .uri e => e.message
  | .notOpen name => s!"Document {name} is not open."
  | .noLibrary package file => s!"Can't find {package} module for {file.text}."
  | .noConfiguration filename file => s!"No {filename} configuration file for {file.text}."
  | .bridge cause => cause.message
  | .placeRefused report => report.message
  | .position e => e.message
  | .notUtf8 => "the manifest is not UTF-8"
  | .beyondLimit limit => limit.message
  | .nulInPath => "embedded null byte"
  | .linkLoop file => "Symlink loop from " ++ Text.quotedString (.ofChars file.toChars)
  | .unsearchable file cause => cause.message file
  | .unwaitable reason => reason
  | .markup cause => cause.message
  | .unencodable fault => fault.message
  | .unwritable file cause => cause.message file

/-- The error of a result that is not a list of failures. -/
def ofPayload : PayloadError → LintError
  | .positionRefused report => .placeRefused report
  | e => .bridge (.badResult e)

/-- What the service does about an error. -/
inductive Treatment where
  /-- The URI is none of a file: it is reported. -/
  | foreign
  /-- The library failed: it is reported, and the request fails. -/
  | fatal
  /-- Something could not be found: it is reported. -/
  | unresolved
  /-- The service does not answer it. -/
  | passed
  deriving DecidableEq, Repr

def treatment : LintError → Treatment
  | .uri (.notFile _) => .foreign
  | .bridge _ => .fatal
  | .notOpen _ | .noLibrary .. | .noConfiguration .. => .unresolved
  | _ => .passed

end LintError

end LintBridge
