import Playground.Bytecode.Backend
import Playground.Bytecode.Code
import Playground.Bytecode.Interpreter
import Playground.Bytecode.Module
import Playground.Bytecode.Syntax
import Playground.Clock
import Playground.CommandLine.Arguments
import Playground.CommandLine.Installed
import Playground.CommandLine.Report
import Playground.CommandLine.Run
import Playground.CommandLine.Switch
import Playground.CommandLine.Taking
import Playground.Compile.Answers
import Playground.Compile.Choice
import Playground.Compile.Module
import Playground.Compile.Options
import Playground.Compile.Outcome
import Playground.Compile.Registry
import Playground.Compile.Request
import Playground.Config.File
import Playground.Config.Resolver
import Playground.Config.Settings
import Playground.Config.Typed
import Playground.Console.Frame
import Playground.Console.Markup
import Playground.Console.Print
import Playground.Console.Printer
import Playground.Console.Style
import Playground.Console.Wrap
import Playground.Debounce
import Playground.Decimal.Binary64
import Playground.Decimal.Digits
import Playground.Decimal.Integer
import Playground.Decimal.Power
import Playground.Decimal.Rounding
import Playground.Diagnostic.Annotation
import Playground.Diagnostic.Layout
import Playground.Diagnostic.Limit
import Playground.Diagnostic.Locator
import Playground.EventBus
import Playground.Fault
import Playground.Files.Disk
import Playground.Files.Path
import Playground.Format.HexDump
import Playground.Format.Size
import Playground.Http.Problem
import Playground.Http.Request
import Playground.Http.Response
import Playground.Imports.Scan
import Playground.Imports.Standard
import Playground.Json
import Playground.Json.Written
import Playground.Literal.Basic
import Playground.Literal.Grammar
import Playground.Literal.Lexer
import Playground.Literal.Reading
import Playground.Literal.Token
import Playground.Literal.Tree
import Playground.Log
import Playground.Main
import Playground.Notifications
import Playground.Session.Action
import Playground.Session.Basic
import Playground.Session.Compilers
import Playground.Session.Coroutine
import Playground.Session.Direct
import Playground.Session.Pipeline
import Playground.Session.Publish
import Playground.Session.Running
import Playground.Session.Snapshot
import Playground.Session.Trigger
import Playground.Status
import Playground.Text.CharClass
import Playground.Text.Cluster
import Playground.Text.Encoding
import Playground.Text.Hex
import Playground.Text.LetterCase
import Playground.Text.Portions
import Playground.Text.Quoted
import Playground.Text.Ranges
import Playground.Text.Split
import Playground.Text.Utf8
import Playground.Text.Width
import Playground.Value.Basic
import Playground.Value.Written
import Playground.Yaml.Cursor
import Playground.Yaml.Lexer
import Playground.Yaml.Load
import Playground.Yaml.Node
import Playground.Yaml.Problem
import Playground.Yaml.Property
import Playground.Yaml.Reading
import Playground.Yaml.Scalar
import Playground.Yaml.Tag
import Playground.Yaml.Text
import Playground.Yaml.Timestamp
import Playground.Yaml.Token
import Playground.Proofs.Moves
import Playground.Proofs.Loop
import Playground.Proofs.Nudges
import Playground.Proofs.Calls
import Playground.Proofs.Core
import Playground.Proofs.Entries
import Playground.Proofs.Face
import Playground.Proofs.Stages
import Playground.Proofs.Display
import Playground.Proofs.Ledger
import Playground.Proofs.Legible
import Playground.Proofs.Quiescence
import Playground.Proofs.WholeRuns
import Playground.Proofs.Course
import Playground.Proofs.Deeds
import Playground.Proofs.Paces
import Playground.Proofs.Modules
import Playground.Proofs.Brackets
import Playground.Proofs.Timers
import Playground.Proofs.Stops
import Playground.Proofs.Debouncing
import Playground.Proofs.Outfits
import Playground.Proofs.Refits
import Playground.Proofs.Origins
import Playground.Proofs.Versions
import Playground.Proofs.Availability
import Playground.Proofs.Stances
import Playground.Proofs.Solitary
import Playground.Proofs.Bursts
import Playground.Proofs.Indifference
import Playground.Proofs.Lockstep
import Playground.Proofs.Decompile
import Playground.Proofs.Refusals
import Playground.Proofs.Downloads
import Playground.Proofs.Readiness
import Playground.Proofs.Precedence
import Playground.Proofs.Loadings
import Playground.Proofs.Observers
import Playground.Proofs.Visits
import Playground.Proofs.Commitments
import Playground.Proofs.Rejections
import Playground.Proofs.Conduct
import Playground.Proofs.Outcomes
import Playground.Proofs.Printing
import Playground.Proofs.Escaping
import Playground.Proofs.Coercions
import Playground.Proofs.Configuring
import Playground.Proofs.Overrides
import Playground.Proofs.SingleCompile
import Playground.Proofs.Saving
import Playground.Proofs.ExitCodes
import Playground.Proofs.Locators
import Playground.Proofs.ReadBack
import Playground.Proofs.Limiting
import Playground.Proofs.Pushing
import Playground.Proofs.Reporting
import Playground.Proofs.Pieces
import Playground.Proofs.ImportLines
import Playground.Proofs.CompileExits
import Playground.Proofs.ForbiddenImports
import Playground.Proofs.Exchanges
import Playground.Proofs.Lifecycle
import Playground.Proofs.LastDiagnostics
import Playground.Proofs.Validation
import Playground.Proofs.Logging
import Playground.Proofs.Messages
import Playground.Proofs.Delivery
import Playground.Proofs.Dumps
import Playground.Proofs.Exactness
import Playground.Proofs.Sizes
