import ExportDocs.CommandLine
import ExportDocs.CommandLine.Survey
import ExportDocs.DocComment
import ExportDocs.DocComment.Tag
import ExportDocs.DocComment.TypeExpression
import ExportDocs.Document
import ExportDocs.Document.Append
import ExportDocs.Document.Region
import ExportDocs.Dump
import ExportDocs.Error
import ExportDocs.Exports.Clause
import ExportDocs.Exports.Declaration
import ExportDocs.Exports.Extract
import ExportDocs.Exports.Outline
import ExportDocs.Exports.Segment
import ExportDocs.Exports.Statement
import ExportDocs.FileTree
import ExportDocs.Host
import ExportDocs.Imports.Engine
import ExportDocs.Imports.Resolution
import ExportDocs.Imports.Stack
import ExportDocs.Imports.Walk
import ExportDocs.Json
import ExportDocs.Json.Reader
import ExportDocs.Log
import ExportDocs.Main
import ExportDocs.Markdown
import ExportDocs.Markdown.Block
import ExportDocs.Markdown.Block.Container
import ExportDocs.Markdown.Block.Definition
import ExportDocs.Markdown.Block.Reader
import ExportDocs.Markdown.Block.Start
import ExportDocs.Markdown.Html
import ExportDocs.Markdown.Inline
import ExportDocs.Markdown.Inline.Emphasis
import ExportDocs.Markdown.Inline.Piece
import ExportDocs.Markdown.Inline.Reader
import ExportDocs.Markdown.Inline.Span
import ExportDocs.Markdown.Line
import ExportDocs.Markdown.Link
import ExportDocs.Markdown.Printer
import ExportDocs.Path
import ExportDocs.Pattern
import ExportDocs.Pattern.Fault
import ExportDocs.Pattern.Reader
import ExportDocs.Report
import ExportDocs.Report.Custom
import ExportDocs.Run
import ExportDocs.Settings
import ExportDocs.Settings.Dotenv
import ExportDocs.Settings.Load
import ExportDocs.Settings.Value
import ExportDocs.Symbol
import ExportDocs.Template
import ExportDocs.Template.Fault
import ExportDocs.Template.Layout
import ExportDocs.Text
import ExportDocs.Text.Blank
import ExportDocs.Text.Case
import ExportDocs.Text.Identifier
import ExportDocs.Text.Lines
import ExportDocs.Text.Percent
import ExportDocs.Text.Quoted
import ExportDocs.Text.Utf8
import ExportDocs.Text.Word
import ExportDocs.Token
import ExportDocs.Token.Lexer
import ExportDocs.Token.Shape
import ExportDocs.Token.Vocabulary
import ExportDocs.World
import ExportDocs.Proofs.Exports.Requests
import ExportDocs.Proofs.Exports.Records
import ExportDocs.Proofs.Exports.Resolver
import ExportDocs.Proofs.Exports.Signatures
import ExportDocs.Proofs.Exports.Places
import ExportDocs.Proofs.Exports.Reexport
import ExportDocs.Proofs.Exports.Hop
import ExportDocs.Proofs.Exports.Defaults
import ExportDocs.Proofs.Exports.Declarators
import ExportDocs.Proofs.FileTree
import ExportDocs.Proofs.Report.SourceLinks
import ExportDocs.Proofs.Report.Order
import ExportDocs.Proofs.Run.Footprint
import ExportDocs.Proofs.Imports.Steps
import ExportDocs.Proofs.Imports.Graph
import ExportDocs.Proofs.Imports.Trace
import ExportDocs.Proofs.Imports.Discipline
import ExportDocs.Proofs.Imports.StackDiscipline
import ExportDocs.Proofs.Imports.Names
import ExportDocs.Proofs.Imports.Nesting
import ExportDocs.Proofs.Imports.Outcome
import ExportDocs.Proofs.Imports.Meaning
import ExportDocs.Proofs.Imports.Account
import ExportDocs.Proofs.Imports.Provenance
import ExportDocs.Proofs.Imports.Once
import ExportDocs.Proofs.Imports.Resolution
import ExportDocs.Proofs.Imports.Relocation
import ExportDocs.Proofs.Imports.Sight
import ExportDocs.Proofs.CommandLine.Verbosity
import ExportDocs.Proofs.Document.Frame
import ExportDocs.Proofs.Document.Interleaving
import ExportDocs.Proofs.Document.Rerun
import ExportDocs.Proofs.Document.Words
import ExportDocs.Proofs.DocComment.TypeExpression
import ExportDocs.Proofs.DocComment.Parameter
import ExportDocs.Proofs.DocComment.Layout
import ExportDocs.Proofs.Exports.Segments
import ExportDocs.Proofs.Exports.Bounds
import ExportDocs.Proofs.Exports.Truncation
import ExportDocs.Proofs.Exports.Clauses
import ExportDocs.Proofs.Exports.DocComments
import ExportDocs.Proofs.Exports.Locality
import ExportDocs.Proofs.Token.Template
import ExportDocs.Proofs.Exports.Literals
import ExportDocs.Proofs.Markdown.Kept
import ExportDocs.Proofs.Markdown.Passage
import ExportDocs.Proofs.Report.Lines
import ExportDocs.Proofs.Report.Examples
