import EnvAudit.Audit
import EnvAudit.Audit.Drift
import EnvAudit.Audit.Exposure
import EnvAudit.Audit.Mismatch
import EnvAudit.Audit.Missing
import EnvAudit.Audit.Unused
import EnvAudit.Clock
import EnvAudit.CommandLine
import EnvAudit.CommandLine.Form
import EnvAudit.CommandLine.Forms
import EnvAudit.CommandLine.Reader
import EnvAudit.CommandLine.Request
import EnvAudit.CommandLine.Scope
import EnvAudit.CommandLine.Word
import EnvAudit.Config
import EnvAudit.Config.Check
import EnvAudit.Config.Environment
import EnvAudit.Config.Field
import EnvAudit.Config.Loader
import EnvAudit.Config.Record
import EnvAudit.Config.Refusal
import EnvAudit.Config.Search
import EnvAudit.Config.Starter
import EnvAudit.Constraint
import EnvAudit.Decimal.Binary64
import EnvAudit.Decimal.Shortest
import EnvAudit.Declaration
import EnvAudit.Declaration.Files
import EnvAudit.Declaration.Parser
import EnvAudit.Declaration.Shape
import EnvAudit.Disk
import EnvAudit.Editor.Buffer
import EnvAudit.Editor.Completion
import EnvAudit.Editor.Diagnostic
import EnvAudit.Editor.Hover
import EnvAudit.Editor.QuickFix
import EnvAudit.Editor.Session
import EnvAudit.Editor.Word
import EnvAudit.Editor.Workspace
import EnvAudit.Failure
import EnvAudit.FileFault
import EnvAudit.FileTree
import EnvAudit.Framework
import EnvAudit.Framework.Detection
import EnvAudit.Glob
import EnvAudit.Glob.Selection
import EnvAudit.Ignore
import EnvAudit.Issue
import EnvAudit.Json.Reader
import EnvAudit.Json.Value
import EnvAudit.Json.Writer
import EnvAudit.Log
import EnvAudit.Log.Format
import EnvAudit.Log.Line
import EnvAudit.Main
import EnvAudit.Matrix
import EnvAudit.Matrix.Cell
import EnvAudit.Matrix.Record
import EnvAudit.Matrix.Row
import EnvAudit.Matrix.Summary
import EnvAudit.Matrix.Survey
import EnvAudit.NameGlob
import EnvAudit.Path
import EnvAudit.Pattern
import EnvAudit.Pattern.Fault
import EnvAudit.Pattern.Matcher
import EnvAudit.Pattern.Reader
import EnvAudit.Pattern.Syntax
import EnvAudit.Project
import EnvAudit.Proofs.Audit.Citation
import EnvAudit.Proofs.Audit.Comparison
import EnvAudit.Proofs.Audit.Completion
import EnvAudit.Proofs.Audit.Ignoring
import EnvAudit.Proofs.Audit.Locality
import EnvAudit.Proofs.Audit.Masking
import EnvAudit.Proofs.Audit.Numerals
import EnvAudit.Proofs.Audit.Remedy
import EnvAudit.Proofs.Audit.Repetition
import EnvAudit.Proofs.Audit.Restriction
import EnvAudit.Proofs.Audit.Undeclared
import EnvAudit.Proofs.Audit.Widening
import EnvAudit.Proofs.CommandLine.Masking
import EnvAudit.Proofs.CommandLine.Settled
import EnvAudit.Proofs.CommandLine.Sync
import EnvAudit.Proofs.Config.Cleaning
import EnvAudit.Proofs.Config.Isolation
import EnvAudit.Proofs.Config.Kinds
import EnvAudit.Proofs.Config.Loading
import EnvAudit.Proofs.Config.Precedence
import EnvAudit.Proofs.Config.RoundTrip
import EnvAudit.Proofs.Config.Search
import EnvAudit.Proofs.Config.SecretList
import EnvAudit.Proofs.Config.Vacancies
import EnvAudit.Proofs.Declaration.Commenting
import EnvAudit.Proofs.Declaration.Layers
import EnvAudit.Proofs.Declaration.Line
import EnvAudit.Proofs.Declaration.Merging
import EnvAudit.Proofs.Declaration.Numbering
import EnvAudit.Proofs.Declaration.Provenance
import EnvAudit.Proofs.Declaration.Quoting
import EnvAudit.Proofs.Declaration.Reading
import EnvAudit.Proofs.Disk.Outline
import EnvAudit.Proofs.Editor.Marking
import EnvAudit.Proofs.Editor.Splicing
import EnvAudit.Proofs.Editor.Word
import EnvAudit.Proofs.Glob.Expansion
import EnvAudit.Proofs.Glob.Grouping
import EnvAudit.Proofs.Glob.Matching
import EnvAudit.Proofs.Glob.Pruning
import EnvAudit.Proofs.Matrix.Agreement
import EnvAudit.Proofs.Matrix.Concealment
import EnvAudit.Proofs.Matrix.Errors
import EnvAudit.Proofs.Matrix.Exposure
import EnvAudit.Proofs.Matrix.Gaps
import EnvAudit.Proofs.Matrix.Grid
import EnvAudit.Proofs.Matrix.Layering
import EnvAudit.Proofs.Matrix.Rows
import EnvAudit.Proofs.Matrix.Selection
import EnvAudit.Proofs.Outcome
import EnvAudit.Proofs.Pattern.Coverage
import EnvAudit.Proofs.Pattern.Language
import EnvAudit.Proofs.Pattern.Reading
import EnvAudit.Proofs.Report.Disclosure
import EnvAudit.Proofs.Script.Fragments
import EnvAudit.Proofs.Script.Laying
import EnvAudit.Proofs.Script.Placement
import EnvAudit.Proofs.Script.Quotation
import EnvAudit.Proofs.Script.Recency
import EnvAudit.Proofs.Script.Rules
import EnvAudit.Proofs.Script.Tokens
import EnvAudit.Proofs.Script.Trees
import EnvAudit.Proofs.Script.Walk
import EnvAudit.Proofs.Secret.Coverage
import EnvAudit.Proofs.Template.Keeping
import EnvAudit.Proofs.Template.Listing
import EnvAudit.Proofs.Template.Masking
import EnvAudit.Proofs.Template.Regeneration
import EnvAudit.Proofs.Text.Basic
import EnvAudit.Proofs.Text.Case
import EnvAudit.Proofs.Text.Cutting
import EnvAudit.Proofs.Text.Lines
import EnvAudit.Proofs.Text.Searching
import EnvAudit.Proofs.Usage.Enclosing
import EnvAudit.Proofs.Usage.Layers
import EnvAudit.Proofs.Usage.Placing
import EnvAudit.Proofs.Usage.Reads
import EnvAudit.Proofs.Usage.Recognition
import EnvAudit.Proofs.Usage.Rewrapping
import EnvAudit.Proofs.Usage.Surroundings
import EnvAudit.Proofs.Usage.Survey
import EnvAudit.Proofs.Usage.WholeReads
import EnvAudit.Proofs.Usage.Wrapping
import EnvAudit.Report
import EnvAudit.Report.Console
import EnvAudit.Report.Grid
import EnvAudit.Report.Record
import EnvAudit.Script.BindingGrammar
import EnvAudit.Script.Cache
import EnvAudit.Script.ClassGrammar
import EnvAudit.Script.Cursor
import EnvAudit.Script.ExpressionGrammar
import EnvAudit.Script.Grammar
import EnvAudit.Script.Literal
import EnvAudit.Script.MarkupGrammar
import EnvAudit.Script.ModuleGrammar
import EnvAudit.Script.Node
import EnvAudit.Script.Operator
import EnvAudit.Script.Reading
import EnvAudit.Script.StatementGrammar
import EnvAudit.Script.Token
import EnvAudit.Script.Tree
import EnvAudit.Script.TypeGrammar
import EnvAudit.Secret
import EnvAudit.Template
import EnvAudit.Text.Basic
import EnvAudit.Text.Blank
import EnvAudit.Text.Case
import EnvAudit.Text.Digit
import EnvAudit.Text.Fold
import EnvAudit.Text.Letter
import EnvAudit.Text.Printable
import EnvAudit.Text.Quoted
import EnvAudit.Text.Range
import EnvAudit.Text.Utf8
import EnvAudit.Toml
import EnvAudit.Toml.Fault
import EnvAudit.Toml.Reader
import EnvAudit.Toml.Scalar
import EnvAudit.Toml.Value
import EnvAudit.Url
import EnvAudit.Url.Address
import EnvAudit.Url.File
import EnvAudit.Usage
import EnvAudit.Usage.Fallback
import EnvAudit.Usage.Recognizer
import EnvAudit.Usage.Scan
import EnvAudit.Usage.Site
import EnvAudit.Usage.Survey
import EnvAudit.ValueType
