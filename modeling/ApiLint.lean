import ApiLint.Child.Launch
import ApiLint.Child.Machine
import ApiLint.Child.Runner
import ApiLint.Child.Wait
import ApiLint.CommandLine.Included
import ApiLint.CommandLine.Lint
import ApiLint.CommandLine.Needed
import ApiLint.CommandLine.Outcome
import ApiLint.CommandLine.Request
import ApiLint.CommandLine.Words
import ApiLint.Console.Line
import ApiLint.Console.Manager
import ApiLint.Console.Message
import ApiLint.Decimal.Basic
import ApiLint.Decimal.Shortest
import ApiLint.Document.LineIndex
import ApiLint.Failure
import ApiLint.Files.Path
import ApiLint.Files.TempDirectory
import ApiLint.Files.Tree
import ApiLint.Glob.Expression
import ApiLint.Glob.Pattern
import ApiLint.Glob.Segment
import ApiLint.Issue.Basic
import ApiLint.Issue.Batch
import ApiLint.Json.Reader
import ApiLint.Json.Writer
import ApiLint.Literal.Expression
import ApiLint.Literal.Fault
import ApiLint.Literal.Number
import ApiLint.Literal.Reader
import ApiLint.Literal.Token
import ApiLint.Log
import ApiLint.Main
import ApiLint.Moment
import ApiLint.Projection.Basic
import ApiLint.Projection.Span
import ApiLint.Proofs.Child.Limit
import ApiLint.Proofs.CommandLine.Agreement
import ApiLint.Proofs.CommandLine.ExitCode
import ApiLint.Proofs.CommandLine.Format
import ApiLint.Proofs.CommandLine.Handover
import ApiLint.Proofs.CommandLine.Spelling
import ApiLint.Proofs.CommandLine.Stages
import ApiLint.Proofs.Document.Lines
import ApiLint.Proofs.Document.Newlines
import ApiLint.Proofs.Document.Offsets
import ApiLint.Proofs.Files.Steps
import ApiLint.Proofs.Files.TempDirectory
import ApiLint.Proofs.Glob.Closing
import ApiLint.Proofs.Glob.Cover
import ApiLint.Proofs.Glob.Expression
import ApiLint.Proofs.Glob.Language
import ApiLint.Proofs.Glob.Match
import ApiLint.Proofs.Glob.Plain
import ApiLint.Proofs.Glob.Segments
import ApiLint.Proofs.Issue.Agreement
import ApiLint.Proofs.Issue.Batch
import ApiLint.Proofs.Issue.Fields
import ApiLint.Proofs.Issue.Numbers
import ApiLint.Proofs.Issue.RoundTrip
import ApiLint.Proofs.Json.RoundTrip
import ApiLint.Proofs.Json.WholeNumber
import ApiLint.Proofs.Projection.Batch
import ApiLint.Proofs.Report.Findings
import ApiLint.Proofs.Report.Json
import ApiLint.Proofs.Report.Literal
import ApiLint.Proofs.Report.Markup
import ApiLint.Proofs.Report.Regions
import ApiLint.Proofs.Report.Room
import ApiLint.Proofs.Report.Sarif
import ApiLint.Proofs.Report.Table
import ApiLint.Proofs.Run.Collaborators
import ApiLint.Proofs.Run.Escape
import ApiLint.Proofs.Run.Interleaving
import ApiLint.Proofs.Schema.FirstFault
import ApiLint.Proofs.Scope.Base
import ApiLint.Proofs.Scope.Decision
import ApiLint.Proofs.Scope.Exclusion
import ApiLint.Proofs.Scope.Normal
import ApiLint.Proofs.Scope.Patterns
import ApiLint.Proofs.Scope.Separators
import ApiLint.Proofs.Scope.Spelling
import ApiLint.Proofs.Settings.Fields
import ApiLint.Proofs.Settings.Listing
import ApiLint.Proofs.Settings.Load
import ApiLint.Proofs.Settings.Precedence
import ApiLint.Proofs.Settings.Root
import ApiLint.Proofs.Settings.Spelling
import ApiLint.Proofs.Text.Legible
import ApiLint.Proofs.Text.Pieces
import ApiLint.Proofs.Text.Utf8
import ApiLint.Report.Json
import ApiLint.Report.Layout
import ApiLint.Report.Markup
import ApiLint.Report.Sarif
import ApiLint.Report.Style
import ApiLint.Report.Table
import ApiLint.Report.Wrap
import ApiLint.Run.Basic
import ApiLint.Run.Command
import ApiLint.Schema.Fault
import ApiLint.Schema.Number
import ApiLint.Scope.Decision
import ApiLint.Scope.Inclusion
import ApiLint.Settings.Basic
import ApiLint.Settings.Sources
import ApiLint.Severity
import ApiLint.Shell.Arithmetic
import ApiLint.Shell.Format
import ApiLint.Shell.Lexeme
import ApiLint.Shell.Reader
import ApiLint.Shell.Run
import ApiLint.Shell.Script
import ApiLint.Shell.Session
import ApiLint.Shell.Tools
import ApiLint.Text.Case
import ApiLint.Text.Cluster
import ApiLint.Text.CodePoint
import ApiLint.Text.Encoding
import ApiLint.Text.Lines
import ApiLint.Text.Printable
import ApiLint.Text.Quoted
import ApiLint.Text.Width
import ApiLint.Text.Word
import ApiLint.Toml.Chars
import ApiLint.Toml.Document
import ApiLint.Toml.Fault
import ApiLint.Toml.Scalar
import ApiLint.Toml.Value
import ApiLint.Value
