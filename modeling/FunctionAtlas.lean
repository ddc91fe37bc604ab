import FunctionAtlas.Analysis.Collector
import FunctionAtlas.Analysis.Function
import FunctionAtlas.Analysis.Language
import FunctionAtlas.Analysis.Module
import FunctionAtlas.Analysis.Problem
import FunctionAtlas.Analysis.Project
import FunctionAtlas.Analysis.Summary
import FunctionAtlas.Automaton.Dfa
import FunctionAtlas.Automaton.Item
import FunctionAtlas.Automaton.Keywords
import FunctionAtlas.Automaton.Merge
import FunctionAtlas.Automaton.Nfa
import FunctionAtlas.Automaton.States
import FunctionAtlas.Automaton.Table
import FunctionAtlas.Automaton.TokenConflict
import FunctionAtlas.Automaton.TokenSet
import FunctionAtlas.Command.Fault
import FunctionAtlas.Command.Help
import FunctionAtlas.Command.Line
import FunctionAtlas.Command.Parameter
import FunctionAtlas.Command.Program
import FunctionAtlas.Command.Reader
import FunctionAtlas.Command.Scope
import FunctionAtlas.Decimal.Binary64
import FunctionAtlas.Decimal.Count
import FunctionAtlas.Discovery.Walk
import FunctionAtlas.Docstring.Body
import FunctionAtlas.Docstring.Clean
import FunctionAtlas.Docstring.Literal
import FunctionAtlas.Glob.Match
import FunctionAtlas.Glob.Pattern
import FunctionAtlas.Grammar.CharSet
import FunctionAtlas.Grammar.Pattern
import FunctionAtlas.Grammar.Prepared
import FunctionAtlas.Grammar.Python
import FunctionAtlas.Grammar.Rule
import FunctionAtlas.Main
import FunctionAtlas.Parse.Layout
import FunctionAtlas.Parse.Lexer
import FunctionAtlas.Parse.Parser
import FunctionAtlas.Parse.Stack
import FunctionAtlas.Parse.Subtree
import FunctionAtlas.Parse.Visible
import FunctionAtlas.Proofs.Analysis.Abort
import FunctionAtlas.Proofs.Analysis.ArrivalOrder
import FunctionAtlas.Proofs.Analysis.BoundNames
import FunctionAtlas.Proofs.Analysis.Comments
import FunctionAtlas.Proofs.Analysis.ControlFreeDumps
import FunctionAtlas.Proofs.Analysis.DocstringOfRecord
import FunctionAtlas.Proofs.Analysis.DumpedRecord
import FunctionAtlas.Proofs.Analysis.Extraction
import FunctionAtlas.Proofs.Analysis.FileIds
import FunctionAtlas.Proofs.Analysis.LineEnds
import FunctionAtlas.Proofs.Analysis.NestedDumps
import FunctionAtlas.Proofs.Analysis.Parameters
import FunctionAtlas.Proofs.Analysis.Reparsed
import FunctionAtlas.Proofs.Analysis.Spans
import FunctionAtlas.Proofs.Analysis.Verdict
import FunctionAtlas.Proofs.Automaton.Names
import FunctionAtlas.Proofs.Discovery.AddedLink
import FunctionAtlas.Proofs.Discovery.Found
import FunctionAtlas.Proofs.Discovery.Moved
import FunctionAtlas.Proofs.Discovery.PathsBelow
import FunctionAtlas.Proofs.Discovery.Visit
import FunctionAtlas.Proofs.Docstring.CleanedReturns
import FunctionAtlas.Proofs.Docstring.Depth
import FunctionAtlas.Proofs.Docstring.Documented
import FunctionAtlas.Proofs.Docstring.Layout
import FunctionAtlas.Proofs.Docstring.LiteralEnd
import FunctionAtlas.Proofs.Docstring.Reading
import FunctionAtlas.Proofs.Docstring.Returns
import FunctionAtlas.Proofs.Docstring.ShownLiterals
import FunctionAtlas.Proofs.Docstring.WrittenBodies
import FunctionAtlas.Proofs.FirstFailure
import FunctionAtlas.Proofs.Glob.FirstCharacter
import FunctionAtlas.Proofs.Grammar.FixedRows
import FunctionAtlas.Proofs.Grammar.Names
import FunctionAtlas.Proofs.Grammar.PythonTree
import FunctionAtlas.Proofs.Grammar.Spelling
import FunctionAtlas.Proofs.Parse.Actions
import FunctionAtlas.Proofs.Parse.Covering
import FunctionAtlas.Proofs.Parse.Popping
import FunctionAtlas.Proofs.Parse.Reading
import FunctionAtlas.Proofs.Parse.Repairs
import FunctionAtlas.Proofs.Parse.Rounds
import FunctionAtlas.Proofs.Parse.StackPlaces
import FunctionAtlas.Proofs.Parse.VisibleNames
import FunctionAtlas.Proofs.Parse.VisiblePlaces
import FunctionAtlas.Proofs.Regex.EscapedText
import FunctionAtlas.Proofs.Regex.TextProgram
import FunctionAtlas.Proofs.Report.SummaryReading
import FunctionAtlas.Proofs.Report.TreesReading
import FunctionAtlas.Proofs.Report.WrittenViews
import FunctionAtlas.Proofs.Run.Frame
import FunctionAtlas.Proofs.Run.SettingsFrame
import FunctionAtlas.Proofs.Run.SummaryFrame
import FunctionAtlas.Proofs.Search.FixedStrings
import FunctionAtlas.Proofs.Search.FoundLines
import FunctionAtlas.Proofs.Search.Highlighted
import FunctionAtlas.Proofs.Search.MatchingLines
import FunctionAtlas.Proofs.Storage.Components
import FunctionAtlas.Proofs.Storage.Entries
import FunctionAtlas.Proofs.Storage.Folders
import FunctionAtlas.Proofs.Storage.Grounded
import FunctionAtlas.Proofs.Storage.PathsAbove
import FunctionAtlas.Proofs.Storage.Walks
import FunctionAtlas.Proofs.Storage.Writing
import FunctionAtlas.Proofs.Syntax.Arrangement
import FunctionAtlas.Proofs.Syntax.ControlFree
import FunctionAtlas.Proofs.Syntax.Correspondence
import FunctionAtlas.Proofs.Syntax.Placement
import FunctionAtlas.Proofs.Syntax.Preorder
import FunctionAtlas.Proofs.Syntax.Relocation
import FunctionAtlas.Proofs.Syntax.Shown
import FunctionAtlas.Proofs.Syntax.UniqueReading
import FunctionAtlas.Proofs.Syntax.WrittenText
import FunctionAtlas.Proofs.Text.ByteOrder
import FunctionAtlas.Proofs.Text.Delimited
import FunctionAtlas.Proofs.Text.Places
import FunctionAtlas.Regex.CharClass
import FunctionAtlas.Regex.Cursor
import FunctionAtlas.Regex.Escape
import FunctionAtlas.Regex.Expr
import FunctionAtlas.Regex.Fault
import FunctionAtlas.Regex.Parser
import FunctionAtlas.Regex.Program
import FunctionAtlas.Regex.Property
import FunctionAtlas.Regex.Room
import FunctionAtlas.Regex.Run
import FunctionAtlas.Regex.SetReader
import FunctionAtlas.Regex.Syntax
import FunctionAtlas.Report.Document
import FunctionAtlas.Report.Files
import FunctionAtlas.Report.Json
import FunctionAtlas.Report.Overview
import FunctionAtlas.Report.Views
import FunctionAtlas.Run.Effect
import FunctionAtlas.Run.Init
import FunctionAtlas.Run.Inputs
import FunctionAtlas.Run.Request
import FunctionAtlas.Run.Search
import FunctionAtlas.Run.Summarize
import FunctionAtlas.Search.Highlight
import FunctionAtlas.Search.Lines
import FunctionAtlas.Search.Listing
import FunctionAtlas.Search.Pattern
import FunctionAtlas.Settings.Config
import FunctionAtlas.Settings.Load
import FunctionAtlas.Settings.Template
import FunctionAtlas.Storage.Disk
import FunctionAtlas.Storage.Path
import FunctionAtlas.Syntax.Dump
import FunctionAtlas.Syntax.Node
import FunctionAtlas.Text.Blank
import FunctionAtlas.Text.CaseFold
import FunctionAtlas.Text.Category
import FunctionAtlas.Text.Extent
import FunctionAtlas.Text.Identifier
import FunctionAtlas.Text.Property
import FunctionAtlas.Text.Quoted
import FunctionAtlas.Text.RangeTable
import FunctionAtlas.Text.Script
import FunctionAtlas.Text.Similarity
import FunctionAtlas.Text.Slice
import FunctionAtlas.Text.Styled
import FunctionAtlas.Yaml.Decode
import FunctionAtlas.Yaml.Document
import FunctionAtlas.Yaml.Event
import FunctionAtlas.Yaml.Found
import FunctionAtlas.Yaml.Lexer
import FunctionAtlas.Yaml.Scalar
import FunctionAtlas.Yaml.Scanner
import FunctionAtlas.Yaml.Tag
import FunctionAtlas.Yaml.Token
