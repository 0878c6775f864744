import LintBridge.Bridge.Program
import LintBridge.Bridge.Request
import LintBridge.Bridge.Run
import LintBridge.Cache.Basic
import LintBridge.Cache.Lookup
import LintBridge.Command.Basic
import LintBridge.Command.Run
import LintBridge.CommandLine.Arguments
import LintBridge.CommandLine.Basic
import LintBridge.Configuration.Basic
import LintBridge.Configuration.Search
import LintBridge.Console.Cluster
import LintBridge.Console.Color
import LintBridge.Console.Columns
import LintBridge.Console.Emoji.Basic
import LintBridge.Console.Emoji.Names
import LintBridge.Console.Listing
import LintBridge.Console.Literal.Escape
import LintBridge.Console.Literal.Expr
import LintBridge.Console.Literal.Fault
import LintBridge.Console.Literal.Filled
import LintBridge.Console.Literal.Grammar
import LintBridge.Console.Literal.Lexeme
import LintBridge.Console.Literal.Match
import LintBridge.Console.Literal.Number
import LintBridge.Console.Literal.Reader
import LintBridge.Console.Literal.Rules
import LintBridge.Console.Literal.Token
import LintBridge.Console.Markup
import LintBridge.Console.Message
import LintBridge.Console.Style
import LintBridge.Console.Wrap
import LintBridge.Diagnostic
import LintBridge.Document
import LintBridge.Error
import LintBridge.Failure.Basic
import LintBridge.Failure.Payload
import LintBridge.FileTree
import LintBridge.Fix
import LintBridge.Host
import LintBridge.Json.Display
import LintBridge.Json.Printer
import LintBridge.Json.Reader
import LintBridge.Json.Value
import LintBridge.Library.Handle
import LintBridge.Library.Manifest
import LintBridge.Library.Search
import LintBridge.Log
import LintBridge.Main
import LintBridge.Number.Binary64
import LintBridge.Number.Decimal
import LintBridge.Number.Hex
import LintBridge.Path
import LintBridge.Proofs.CommandLine.Bytes
import LintBridge.Proofs.CommandLine.Fix
import LintBridge.Proofs.CommandLine.Stages
import LintBridge.Proofs.FileTree.Content
import LintBridge.Proofs.FileTree.Place
import LintBridge.Proofs.FileTree.Walk
import LintBridge.Proofs.Fix
import LintBridge.Proofs.Path
import LintBridge.Proofs.Result
import LintBridge.Proofs.Routine.Asks
import LintBridge.Proofs.Routine.Lint
import LintBridge.Proofs.Routine.RunOn
import LintBridge.Proofs.Routine.Shown
import LintBridge.Proofs.Service.Contained
import LintBridge.Proofs.Service.Errors
import LintBridge.Proofs.Service.Stages
import LintBridge.Proofs.Text.Boundary
import LintBridge.Proofs.Text.Bytes
import LintBridge.Proofs.Text.Lines
import LintBridge.Proofs.Text.Splice
import LintBridge.Proofs.Text.Utf8
import LintBridge.Proofs.Uri
import LintBridge.Routine.Basic
import LintBridge.Routine.Run
import LintBridge.Service
import LintBridge.Session.Basic
import LintBridge.Session.Params
import LintBridge.Settings.Basic
import LintBridge.Settings.Field
import LintBridge.Settings.Key
import LintBridge.Table
import LintBridge.Text.Blank
import LintBridge.Text.CharacterName
import LintBridge.Text.Digit
import LintBridge.Text.Edit
import LintBridge.Text.Identifier
import LintBridge.Text.LowerCase
import LintBridge.Text.Pieces
import LintBridge.Text.Position
import LintBridge.Text.Printable
import LintBridge.Text.Quoted
import LintBridge.Text.Snapshot
import LintBridge.Text.Utf16
import LintBridge.Text.Utf8
import LintBridge.Text.Word
import LintBridge.Uri.Basic
import LintBridge.Uri.Host
import LintBridge.Validation
import LintBridge.Version.Basic
import LintBridge.Version.Generation
import LintBridge.Proofs.Routine.Upholds
import LintBridge.Proofs.Service.Flows
import LintBridge.Routine.Pool
import LintBridge.Proofs.Routine.Pool
import LintBridge.Cache.Calls
import LintBridge.Proofs.Cache.Coherent
import LintBridge.Proofs.Cache.Transparent
import LintBridge.Proofs.Cache.Notified
import LintBridge.Proofs.Session.Closed
import LintBridge.Proofs.Cache.LookupEnds
import LintBridge.Proofs.Routine.History
import LintBridge.Proofs.Bridge.Carries
import LintBridge.Proofs.Cache.Accounts
import LintBridge.Proofs.Routine.Asked
import LintBridge.Proofs.Diagnostic
import LintBridge.Service.Calls
import LintBridge.Proofs.Service.LintCalls
import LintBridge.Proofs.Service.Publications
import LintBridge.Proofs.Cache.Replays
import LintBridge.Proofs.CommandLine.Check
import LintBridge.Proofs.FileTree.Later
import LintBridge.Proofs.Routine.Amid
import LintBridge.Proofs.CommandLine.Guard
import LintBridge.Proofs.Text.Batch
import LintBridge.Proofs.Failure
import LintBridge.Proofs.Bridge.Boundary
import LintBridge.Proofs.Session.Reports
import LintBridge.Proofs.Session.Delivery
import LintBridge.Proofs.Text.Division
import LintBridge.Proofs.Text.Conversion
import LintBridge.Proofs.Binary64
import LintBridge.Proofs.Replacement
import LintBridge.Proofs.Bridge.Loading
import LintBridge.Proofs.Routine.Started
import LintBridge.Proofs.Path.Ancestors
import LintBridge.Proofs.FileTree.Marked
import LintBridge.Proofs.Text.Trim
import LintBridge.Proofs.Library.Inquiry
import LintBridge.Proofs.Library.Located
import LintBridge.Library.Calls
import LintBridge.Proofs.Library.Discovery
import LintBridge.Proofs.Version.Basic
import LintBridge.Proofs.Library.Manifest
import LintBridge.Proofs.Text.Digit
import LintBridge.Proofs.Version.Run
import LintBridge.Proofs.Version.Ascii
import LintBridge.Proofs.Version.Semantic
import LintBridge.Proofs.Library.Classified
import LintBridge.Proofs.Version.Surrounded
import LintBridge.Proofs.Version.Found
import LintBridge.Proofs.Library.Declared
import LintBridge.Proofs.Configuration.Nearest
import LintBridge.Proofs.Settings.Key
import LintBridge.Proofs.Settings.Precedence
import LintBridge.Proofs.CommandLine.Named
import LintBridge.Proofs.Text.Slice
import LintBridge.Proofs.Version.Normalized
import LintBridge.Proofs.Bridge.Requested
import LintBridge.Proofs.CommandLine.Ends
