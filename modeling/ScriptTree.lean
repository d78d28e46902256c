import ScriptTree.Cache.Recency
import ScriptTree.Command.Arguments
import ScriptTree.Command.Basic
import ScriptTree.Command.Run
import ScriptTree.Comment
import ScriptTree.Document.Basic
import ScriptTree.Document.Retrieval
import ScriptTree.Editor.Diagnostic
import ScriptTree.File.Disk
import ScriptTree.File.Metadata
import ScriptTree.File.Path
import ScriptTree.Grammar.Expression
import ScriptTree.Grammar.Function
import ScriptTree.Grammar.Machine
import ScriptTree.Grammar.Pattern
import ScriptTree.Grammar.Phrase
import ScriptTree.Grammar.Program
import ScriptTree.Grammar.Reinterpret
import ScriptTree.Grammar.Rule
import ScriptTree.Grammar.Sequence
import ScriptTree.Grammar.Statement
import ScriptTree.Json.Text
import ScriptTree.Lexeme.Cursor
import ScriptTree.Lexeme.Escape
import ScriptTree.Lexeme.Numeral
import ScriptTree.Lexeme.Quoted
import ScriptTree.Lexeme.Scanner
import ScriptTree.Lexeme.Stream
import ScriptTree.Lexeme.Trivia
import ScriptTree.Lint.Basic
import ScriptTree.Lint.Unreachable
import ScriptTree.Node.Basic
import ScriptTree.Node.Operator
import ScriptTree.Node.Shape
import ScriptTree.Node.Type
import ScriptTree.Number.Nearest
import ScriptTree.Number.Numeral
import ScriptTree.Number.Shortest
import ScriptTree.Observer
import ScriptTree.Outline
import ScriptTree.Proofs.Assembly.Basic
import ScriptTree.Proofs.Assembly.Expression
import ScriptTree.Proofs.Assembly.Function
import ScriptTree.Proofs.Assembly.Law
import ScriptTree.Proofs.Assembly.Operand
import ScriptTree.Proofs.Assembly.Phrase
import ScriptTree.Proofs.Assembly.Program
import ScriptTree.Proofs.Assembly.Sealing
import ScriptTree.Proofs.Assembly.Statement
import ScriptTree.Proofs.Cache.Chain
import ScriptTree.Proofs.Cache.Peek
import ScriptTree.Proofs.Cache.Refinement
import ScriptTree.Proofs.Cache.Requests
import ScriptTree.Proofs.Command.Lint
import ScriptTree.Proofs.Document.Current
import ScriptTree.Proofs.Document.Fetching
import ScriptTree.Proofs.Document.Interleaving
import ScriptTree.Proofs.Editor.Position
import ScriptTree.Proofs.Editor.Symbol
import ScriptTree.Proofs.File.Path
import ScriptTree.Proofs.Fuel.Basic
import ScriptTree.Proofs.Fuel.Descent
import ScriptTree.Proofs.Fuel.Expression
import ScriptTree.Proofs.Fuel.Operand
import ScriptTree.Proofs.Fuel.Phrase
import ScriptTree.Proofs.Fuel.Program
import ScriptTree.Proofs.Fuel.Statement
import ScriptTree.Proofs.Grammar.Contract
import ScriptTree.Proofs.Grammar.Fatality
import ScriptTree.Proofs.Grammar.Fitting
import ScriptTree.Proofs.Grammar.Lockstep
import ScriptTree.Proofs.Grammar.Nesting
import ScriptTree.Proofs.Grammar.Nodes
import ScriptTree.Proofs.Grammar.Piece
import ScriptTree.Proofs.Grammar.Position
import ScriptTree.Proofs.Grammar.Precedence
import ScriptTree.Proofs.Grammar.Reading
import ScriptTree.Proofs.Grammar.Running
import ScriptTree.Proofs.Grammar.Strictness
import ScriptTree.Proofs.Grammar.Upholding
import ScriptTree.Proofs.Height.Basic
import ScriptTree.Proofs.Height.Chain
import ScriptTree.Proofs.Height.Measure
import ScriptTree.Proofs.Height.Operand
import ScriptTree.Proofs.Height.Phrase
import ScriptTree.Proofs.Height.Program
import ScriptTree.Proofs.Height.Statement
import ScriptTree.Proofs.Height.Tower
import ScriptTree.Proofs.Lexeme.Binding
import ScriptTree.Proofs.Lexeme.Ending
import ScriptTree.Proofs.Lexeme.Partition
import ScriptTree.Proofs.Lexeme.Place
import ScriptTree.Proofs.Lexeme.Spelling
import ScriptTree.Proofs.Lexeme.Step
import ScriptTree.Proofs.Lexeme.Tiling
import ScriptTree.Proofs.Node.Form
import ScriptTree.Proofs.Node.Subtree
import ScriptTree.Proofs.Server.Handling
import ScriptTree.Proofs.Server.Interleaving
import ScriptTree.Proofs.Server.Script
import ScriptTree.Proofs.Spacing.Basic
import ScriptTree.Proofs.Spacing.Expression
import ScriptTree.Proofs.Spacing.Operand
import ScriptTree.Proofs.Spacing.Phrase
import ScriptTree.Proofs.Spacing.Program
import ScriptTree.Proofs.Spacing.Statement
import ScriptTree.Proofs.Tree.Attachment
import ScriptTree.Proofs.Tree.Calls
import ScriptTree.Proofs.Tree.Dependency
import ScriptTree.Proofs.Tree.Leading
import ScriptTree.Proofs.Tree.Parse
import ScriptTree.Proofs.Tree.Record
import ScriptTree.Proofs.Tree.Repeats
import ScriptTree.Proofs.Tree.Retry
import ScriptTree.Proofs.Tree.Standing
import ScriptTree.Proofs.Tree.Trailing
import ScriptTree.Proofs.Workspace.Generation
import ScriptTree.Proofs.Workspace.Overlap
import ScriptTree.Proofs.Workspace.Rightness
import ScriptTree.Report
import ScriptTree.Server.Basic
import ScriptTree.Server.Handler
import ScriptTree.Source.Character
import ScriptTree.Source.EditorPosition
import ScriptTree.Source.LineIndex
import ScriptTree.Source.Span
import ScriptTree.Source.Text
import ScriptTree.SyntaxError
import ScriptTree.Token.Basic
import ScriptTree.Token.Class
import ScriptTree.Token.Keyword
import ScriptTree.Token.Punctuator
import ScriptTree.Tree.Annotation
import ScriptTree.Tree.Basic
import ScriptTree.Tree.Dependency
import ScriptTree.Tree.Json
import ScriptTree.Unicode.Alphabetic
import ScriptTree.Unicode.Composition
import ScriptTree.Unicode.Direction
import ScriptTree.Unicode.Joining
import ScriptTree.Unicode.Mark
import ScriptTree.Unicode.Numeric
import ScriptTree.Unicode.Table
import ScriptTree.Uri.Authority
import ScriptTree.Uri.Basic
import ScriptTree.Uri.Domain
import ScriptTree.Uri.DomainMapping
import ScriptTree.Uri.Host
import ScriptTree.Uri.Path
import ScriptTree.Uri.Percent
import ScriptTree.Uri.Punycode
import ScriptTree.Workspace.Basic
import ScriptTree.Main
import ScriptTree.Proofs.Node.Pattern
import ScriptTree.Proofs.Grammar.Stream
import ScriptTree.Proofs.Grammar.Tiling
import ScriptTree.Proofs.Grammar.StatementList
import ScriptTree.Proofs.Lexeme.Naming
import ScriptTree.Proofs.Grammar.Quotation
import ScriptTree.Proofs.Grammar.Invention
import ScriptTree.Proofs.Lexeme.Locality
import ScriptTree.Proofs.Lexeme.Encoding
import ScriptTree.Proofs.Lexeme.Bracketing
import ScriptTree.Proofs.Lexeme.Slash
import ScriptTree.Proofs.Grammar.CodeUnits
import ScriptTree.Proofs.Lexeme.Respacing
import ScriptTree.Proofs.Grammar.Rejection
import ScriptTree.Proofs.Lexeme.Blanks
import ScriptTree.Proofs.Spacing.Trailing
import ScriptTree.Proofs.Lexeme.Fault
import ScriptTree.Proofs.Node.Shelter
import ScriptTree.Proofs.Shelter.Basic
import ScriptTree.Proofs.Shelter.Phrase
import ScriptTree.Proofs.Shelter.Operand
import ScriptTree.Proofs.Shelter.Statement
import ScriptTree.Proofs.Shelter.Running
import ScriptTree.Proofs.Shelter.Program
import ScriptTree.Proofs.Source.LineBreak
import ScriptTree.Proofs.Source.LineIndex
import ScriptTree.Proofs.Lexeme.Newline
import ScriptTree.Proofs.Editor.Line
import ScriptTree.Proofs.Editor.Decoding
import ScriptTree.Proofs.Lint.Dispatch
import ScriptTree.Proofs.Lint.Unreachable
import ScriptTree.Proofs.Outline.Forest
import ScriptTree.Proofs.Cache.Residence
import ScriptTree.Proofs.Workspace.Residence
import ScriptTree.Proofs.Workspace.Count
import ScriptTree.Proofs.Cache.Slots
import ScriptTree.Proofs.Cache.Access
import ScriptTree.Proofs.Level.Basic
import ScriptTree.Proofs.Level.Rule
import ScriptTree.Proofs.Level.Weight
import ScriptTree.Proofs.Level.Program
