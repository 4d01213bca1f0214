import ImportPolicy.Check.Diagnostic
import ImportPolicy.Check.Extensions
import ImportPolicy.Check.Resolver
import ImportPolicy.Cli.Check
import ImportPolicy.Cli.Configure
import ImportPolicy.Cli.Options
import ImportPolicy.Cli.Outcome
import ImportPolicy.Cli.Project
import ImportPolicy.Cli.Run
import ImportPolicy.Cli.Usage
import ImportPolicy.Config.Default
import ImportPolicy.Config.Effective
import ImportPolicy.Config.Languages
import ImportPolicy.Config.Layer
import ImportPolicy.Config.Load
import ImportPolicy.Config.Section
import ImportPolicy.FileTree.Basic
import ImportPolicy.FileTree.Build
import ImportPolicy.FileTree.Read
import ImportPolicy.FileTree.Walk
import ImportPolicy.Json.Printer
import ImportPolicy.Json.Reader
import ImportPolicy.Language
import ImportPolicy.Main
import ImportPolicy.Number.Binary64
import ImportPolicy.Number.Bounds
import ImportPolicy.Number.Decimal
import ImportPolicy.Number.Numeral
import ImportPolicy.Number.Shortest
import ImportPolicy.Path
import ImportPolicy.Policy.Basic
import ImportPolicy.Policy.Entry
import ImportPolicy.Policy.Options
import ImportPolicy.Proofs.Check.ExactFile
import ImportPolicy.Proofs.Check.Findings
import ImportPolicy.Proofs.Check.Locality
import ImportPolicy.Proofs.Check.Stripping
import ImportPolicy.Proofs.Check.Unresolved
import ImportPolicy.Proofs.Cli.Agreement
import ImportPolicy.Proofs.Cli.Planning
import ImportPolicy.Proofs.Cli.Verdict
import ImportPolicy.Proofs.Config.Accepting
import ImportPolicy.Proofs.Config.Layering
import ImportPolicy.Proofs.Config.Loading
import ImportPolicy.Proofs.Config.Sections
import ImportPolicy.Proofs.Config.UserFile
import ImportPolicy.Proofs.FileTree.Adding
import ImportPolicy.Proofs.FileTree.Arriving
import ImportPolicy.Proofs.FileTree.Differing
import ImportPolicy.Proofs.FileTree.Following
import ImportPolicy.Proofs.FileTree.Removing
import ImportPolicy.Proofs.FileTree.Walking
import ImportPolicy.Proofs.Json.Data
import ImportPolicy.Proofs.Path.Locations
import ImportPolicy.Proofs.Path.Names
import ImportPolicy.Proofs.Policy.Entries
import ImportPolicy.Proofs.Policy.Grammar
import ImportPolicy.Proofs.Policy.LastWins
import ImportPolicy.Proofs.Resolve.Candidates
import ImportPolicy.Proofs.Resolve.DirectoryEnding
import ImportPolicy.Proofs.Resolve.Failure
import ImportPolicy.Proofs.Resolve.LinkFree
import ImportPolicy.Proofs.Resolve.RealPath
import ImportPolicy.Proofs.Resolve.Search
import ImportPolicy.Proofs.Resolve.Shadowing
import ImportPolicy.Proofs.Rule.Running
import ImportPolicy.Proofs.Rule.Sessions
import ImportPolicy.Proofs.Rule.Switches
import ImportPolicy.Proofs.Schema.Reading
import ImportPolicy.Proofs.Script.DocumentOrder
import ImportPolicy.Proofs.Script.Escapes
import ImportPolicy.Proofs.Script.Extraction
import ImportPolicy.Proofs.Script.Hexadecimal
import ImportPolicy.Proofs.Script.Requiring
import ImportPolicy.Proofs.Script.Sites
import ImportPolicy.Proofs.Script.Spelling
import ImportPolicy.Proofs.Snapshot.Counts
import ImportPolicy.Proofs.Specifier.Extension
import ImportPolicy.Proofs.Specifier.ModuleName
import ImportPolicy.Proofs.Specifier.PathLike
import ImportPolicy.Proofs.Text.Pieces
import ImportPolicy.Proofs.Text.Tables
import ImportPolicy.Proofs.Traversals
import ImportPolicy.Report.Console
import ImportPolicy.Report.Json
import ImportPolicy.Resolve.Lookup
import ImportPolicy.Resolve.Manifest
import ImportPolicy.Rule.Config
import ImportPolicy.Rule.Run
import ImportPolicy.Rule.Session
import ImportPolicy.Scan.Files
import ImportPolicy.Scan.IgnoreRule
import ImportPolicy.Scan.Pattern
import ImportPolicy.Schema.Checked
import ImportPolicy.Schema.Problem
import ImportPolicy.Schema.Reader
import ImportPolicy.Script.Escape
import ImportPolicy.Script.Extractor
import ImportPolicy.Script.Grammar
import ImportPolicy.Script.Grammar.Context
import ImportPolicy.Script.Grammar.Expressions
import ImportPolicy.Script.Grammar.Markup
import ImportPolicy.Script.Grammar.Members
import ImportPolicy.Script.Grammar.Statements
import ImportPolicy.Script.Grammar.Types
import ImportPolicy.Script.Imports
import ImportPolicy.Script.Lexical
import ImportPolicy.Script.Node
import ImportPolicy.Script.Parser
import ImportPolicy.Script.Position
import ImportPolicy.Settings
import ImportPolicy.Severity
import ImportPolicy.Snapshot.Basic
import ImportPolicy.Snapshot.Build
import ImportPolicy.Snapshot.Issue
import ImportPolicy.Snapshot.Reader
import ImportPolicy.Snapshot.Value
import ImportPolicy.Specifier.Class
import ImportPolicy.Specifier.Extension
import ImportPolicy.Text.Base64
import ImportPolicy.Text.Basic
import ImportPolicy.Text.Blank
import ImportPolicy.Text.Case
import ImportPolicy.Text.CaseTable
import ImportPolicy.Text.Lines
import ImportPolicy.Text.Printable
import ImportPolicy.Text.Ranges
import ImportPolicy.Text.Table
import ImportPolicy.Text.Utf8
import ImportPolicy.Text.Utf8.Fault
import ImportPolicy.Text.Word
import ImportPolicy.Value.Basic
import ImportPolicy.Value.Calendar
import ImportPolicy.Value.Display
import ImportPolicy.Value.Instant
import ImportPolicy.Value.Parts
import ImportPolicy.Yaml.Block
import ImportPolicy.Yaml.Cursor
import ImportPolicy.Yaml.Failure
import ImportPolicy.Yaml.Meaning
import ImportPolicy.Yaml.Node
import ImportPolicy.Yaml.Plain
import ImportPolicy.Yaml.Printer
import ImportPolicy.Yaml.Quoted
import ImportPolicy.Yaml.Scalar
import ImportPolicy.Yaml.Style
import ImportPolicy.Yaml.Token
import ImportPolicy.Yaml.Tokens
import ImportPolicy.Yaml.Value
import ImportPolicy.Proofs.Config.Suffixes
import ImportPolicy.Proofs.Scan.Listing
import ImportPolicy.Proofs.Snapshot.Gathering
import ImportPolicy.Proofs.Snapshot.SingleFile
import ImportPolicy.Proofs.FileTree.Overwriting
import ImportPolicy.Proofs.Resolve.Manifests
import ImportPolicy.Proofs.Snapshot.Rewriting
import ImportPolicy.Proofs.Cli.Reporting
import ImportPolicy.Proofs.Cli.ContentLocality
import ImportPolicy.Proofs.Config.Leaves
import ImportPolicy.Proofs.Text.Numerals
import ImportPolicy.Proofs.Rule.Identifiers
import ImportPolicy.Proofs.Rule.Options
import ImportPolicy.Proofs.Json.Encoding
import ImportPolicy.Proofs.Json.ReadingBack
import ImportPolicy.Proofs.Value.Stamps
import ImportPolicy.Proofs.Schema.Yielding
import ImportPolicy.Proofs.Schema.Records
import ImportPolicy.Proofs.Snapshot.Validity
import ImportPolicy.Proofs.Report.Lossless
import ImportPolicy.Proofs.Config.Regrouping
import ImportPolicy.Proofs.Rule.Accounting
import ImportPolicy.Proofs.Text.Order
import ImportPolicy.Proofs.Scan.Exactness
import ImportPolicy.Proofs.Report.Encodable
import ImportPolicy.Proofs.Cli.ReportFile
import ImportPolicy.Proofs.Resolve.Extending
import ImportPolicy.Proofs.Check.LastSegment
import ImportPolicy.Proofs.Specifier.Expression
import ImportPolicy.Proofs.Specifier.PackageNames
import ImportPolicy.Proofs.Script.Columns
import ImportPolicy.Proofs.Script.Locations
