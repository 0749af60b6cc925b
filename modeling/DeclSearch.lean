import DeclSearch.Text.Blank
import DeclSearch.Text.Word
import DeclSearch.Text.Letter
import DeclSearch.Text.Quoted
import DeclSearch.Text.Utf8
import DeclSearch.Text.Lines
import DeclSearch.Text.Pieces
import DeclSearch.Text.Plain
import DeclSearch.Text.CharacterNameTable
import DeclSearch.Text.CharacterName
import DeclSearch.Text.Integer
import DeclSearch.Text.Similar
import DeclSearch.Text.Identifier
import DeclSearch.Text.Normal
import DeclSearch.Text.Json
import DeclSearch.Workspace.Path
import DeclSearch.Workspace.Tree
import DeclSearch.Workspace.Walk
import DeclSearch.Workspace.Source
import DeclSearch.Workspace.Edit
import DeclSearch.Kind
import DeclSearch.Extension
import DeclSearch.Settings
import DeclSearch.Failure
import DeclSearch.Preview
import DeclSearch.NameTest
import DeclSearch.LineKind
import DeclSearch.Shape
import DeclSearch.Request
import DeclSearch.Match
import DeclSearch.Outcome
import DeclSearch.Report
import DeclSearch.Scan
import DeclSearch.Symbol
import DeclSearch.Sink
import DeclSearch.Backend.Basic
import DeclSearch.Backend.Prepared
import DeclSearch.TextSearch
import DeclSearch.Search
import DeclSearch.Client
import DeclSearch.Tool
import DeclSearch.Text.CodePage
import DeclSearch.Text.Octets
import DeclSearch.Python.Encoding
import DeclSearch.Python.Token
import DeclSearch.Python.Number
import DeclSearch.Python.Lexer
import DeclSearch.Python.Syntax
import DeclSearch.Python.Escape
import DeclSearch.Python.Format
import DeclSearch.Python.Parse
import DeclSearch.Python.Expression
import DeclSearch.Python.Pattern
import DeclSearch.Python.Statement
import DeclSearch.Descriptor.Toml.Reader
import DeclSearch.Descriptor.Toml.Strings
import DeclSearch.Descriptor.Toml.Scalar
import DeclSearch.Descriptor.Toml.Table
import DeclSearch.Descriptor.Toml.Document
import DeclSearch.Text.Blocks
import DeclSearch.Descriptor.Ini
import DeclSearch.Python.Module
import DeclSearch.Python.Category
import DeclSearch.Python.Declarations
import DeclSearch.Python.Mentions
import DeclSearch.Descriptor.Check
import DeclSearch.Python.Project
import DeclSearch.Backend.BuiltIn
import DeclSearch.CommandLine.Command
import DeclSearch.CommandLine.Complaint
import DeclSearch.CommandLine.Reading
import DeclSearch.CommandLine.Arguments
import DeclSearch.CommandLine.Help
import DeclSearch.CommandLine.Commands
import DeclSearch.CommandLine.Run
import DeclSearch.Main
import DeclSearch.Proofs.Runs
import DeclSearch.Proofs.Firsts
import DeclSearch.Proofs.Sites
import DeclSearch.Proofs.Units
import DeclSearch.Proofs.Tier
import DeclSearch.Proofs.Scanning
import DeclSearch.Proofs.Levels
import DeclSearch.Proofs.Policy
import DeclSearch.Proofs.Parts
import DeclSearch.Proofs.Pieces
import DeclSearch.Proofs.Positions
import DeclSearch.Proofs.Projects
import DeclSearch.Proofs.Representatives
import DeclSearch.Proofs.Cursors
import DeclSearch.Proofs.EncodedSizes
import DeclSearch.Proofs.NormalForm
import DeclSearch.Proofs.NumberOctets
import DeclSearch.Proofs.TokenOrder
import DeclSearch.Proofs.SlotLines
import DeclSearch.Proofs.Leaves
import DeclSearch.Proofs.Nodes
import DeclSearch.Proofs.Readers
import DeclSearch.Proofs.ReadExpressions
import DeclSearch.Proofs.ReadPatterns
import DeclSearch.Proofs.ReadStatements
import DeclSearch.Proofs.NodeOrder
import DeclSearch.Proofs.TextLines
import DeclSearch.Proofs.Rulings
import DeclSearch.Proofs.Previews
import DeclSearch.Proofs.Decoding
import DeclSearch.Proofs.PhysicalLines
import DeclSearch.Proofs.EncodingLines
import DeclSearch.Proofs.SourceLines
import DeclSearch.Proofs.Paths
import DeclSearch.Proofs.Analysis
import DeclSearch.Proofs.References
import DeclSearch.Proofs.Folders
import DeclSearch.Proofs.Walking
import DeclSearch.Proofs.WalkOrder
import DeclSearch.Proofs.Candidates
import DeclSearch.Proofs.Faithful
import DeclSearch.Proofs.Nesting
import DeclSearch.Proofs.Lowering
import DeclSearch.Proofs.Shapes
import DeclSearch.Proofs.Hits
import DeclSearch.Proofs.LetterClasses
import DeclSearch.Proofs.DeclaredLines
import DeclSearch.Proofs.OwnSpelling
import DeclSearch.Proofs.Modes
import DeclSearch.Proofs.Outlines
import DeclSearch.Proofs.Faults
import DeclSearch.Proofs.SinkChoice
import DeclSearch.Proofs.PlainReports
import DeclSearch.Proofs.Readings
import DeclSearch.Proofs.Extensions
import DeclSearch.Proofs.ExtensionLists
import DeclSearch.Proofs.FrontEnds
import DeclSearch.Proofs.BlankFileTypes
import DeclSearch.Proofs.Traces
import DeclSearch.Proofs.Handles
import DeclSearch.Proofs.Refusals
import DeclSearch.Proofs.Sessions
import DeclSearch.Proofs.ConsoleReports
import DeclSearch.Proofs.JsonReading
import DeclSearch.Proofs.JsonReports
import DeclSearch.Proofs.Definitions
import DeclSearch.Proofs.SourceOrder
import DeclSearch.Proofs.SymbolTable
import DeclSearch.Proofs.Uses
import DeclSearch.Proofs.AttributeColumns
import DeclSearch.Proofs.DeclaringNodes
import DeclSearch.Proofs.DottedNames
import DeclSearch.Proofs.Denials
import DeclSearch.Proofs.Damage
