import Curly.Arguments
import Curly.Assignment
import Curly.Builtin
import Curly.Command
import Curly.Command.Help
import Curly.Command.Request
import Curly.Command.Word
import Curly.Eval.Builtin
import Curly.Eval.Expr
import Curly.Eval.Identity
import Curly.Eval.Iteration
import Curly.Eval.Member
import Curly.Expr
import Curly.Expr.Lexer
import Curly.Expr.Parser
import Curly.Expr.Printer
import Curly.Expr.Redirect
import Curly.Expr.Validity
import Curly.Fault
import Curly.Fault.Field
import Curly.Files
import Curly.Helper
import Curly.Json
import Curly.Listing
import Curly.Loaded
import Curly.Logging
import Curly.Lookup
import Curly.Machine
import Curly.Main
import Curly.Number.Decimal
import Curly.Number.Double
import Curly.Number.Figures
import Curly.Number.Layout
import Curly.Number.Reading
import Curly.Program
import Curly.Program.Compilation
import Curly.Program.Generation
import Curly.Program.Run
import Curly.Program.Trace
import Curly.Proofs.Acceptance
import Curly.Proofs.Assignment
import Curly.Proofs.Command
import Curly.Proofs.Eval.Builtin
import Curly.Proofs.Eval.Expr
import Curly.Proofs.Eval.Gives
import Curly.Proofs.Eval.Joining
import Curly.Proofs.Eval.Member
import Curly.Proofs.Eval.Oblivious
import Curly.Proofs.Except
import Curly.Proofs.Expr.Adjacent
import Curly.Proofs.Expr.Chain
import Curly.Proofs.Expr.Descent
import Curly.Proofs.Expr.Dotted
import Curly.Proofs.Expr.Follows
import Curly.Proofs.Expr.Joined
import Curly.Proofs.Expr.Lexer
import Curly.Proofs.Expr.Number
import Curly.Proofs.Expr.Numeral
import Curly.Proofs.Expr.Order
import Curly.Proofs.Expr.Outcome
import Curly.Proofs.Expr.Parser
import Curly.Proofs.Expr.Passage
import Curly.Proofs.Expr.Place
import Curly.Proofs.Expr.Quoted
import Curly.Proofs.Expr.Redirect
import Curly.Proofs.Expr.Resolution
import Curly.Proofs.Expr.Row
import Curly.Proofs.Expr.Seam
import Curly.Proofs.Expr.Shadowing
import Curly.Proofs.Expr.Site
import Curly.Proofs.Loading
import Curly.Proofs.Loaded
import Curly.Proofs.Number.Grammar
import Curly.Proofs.Number.Rounding
import Curly.Proofs.Number.Scaled
import Curly.Proofs.Number.Shortest
import Curly.Proofs.Outline
import Curly.Proofs.Program.Agreement
import Curly.Proofs.Program.Chain
import Curly.Proofs.Program.Compilation
import Curly.Proofs.Program.Concatenation
import Curly.Proofs.Program.Correctness
import Curly.Proofs.Program.Emission
import Curly.Proofs.Program.Escaping
import Curly.Proofs.Program.Faults
import Curly.Proofs.Program.Generation
import Curly.Proofs.Program.Marker
import Curly.Proofs.Program.Meaning
import Curly.Proofs.Program.Occurrence
import Curly.Proofs.Program.Outline
import Curly.Proofs.Program.Output
import Curly.Proofs.Program.Overrun
import Curly.Proofs.Program.Scoping
import Curly.Proofs.Program.Simple
import Curly.Proofs.Program.Simulation
import Curly.Proofs.Program.Texts
import Curly.Proofs.Program.Totality
import Curly.Proofs.Registry
import Curly.Proofs.Scope
import Curly.Proofs.Term.Chain
import Curly.Proofs.Term.Code
import Curly.Proofs.Term.Comparison
import Curly.Proofs.Term.Front
import Curly.Proofs.Term.Literal
import Curly.Proofs.Term.Number
import Curly.Proofs.Term.Outcome
import Curly.Proofs.Term.Overrun
import Curly.Proofs.Term.Padded
import Curly.Proofs.Term.Path
import Curly.Proofs.Term.Quoted
import Curly.Proofs.Term.Reader
import Curly.Proofs.Term.Rebase
import Curly.Proofs.Term.Shadowing
import Curly.Proofs.Term.Shorthand
import Curly.Proofs.Term.Spacing
import Curly.Proofs.Term.Splitting
import Curly.Proofs.Text.Ascii
import Curly.Proofs.Text.Search
import Curly.Proofs.Text.Space
import Curly.Proofs.Text.Word
import Curly.Proofs.Token.Concatenation
import Curly.Proofs.Token.Partition
import Curly.Proofs.Token.Place
import Curly.Proofs.Token.Printing
import Curly.Proofs.Token.Segment
import Curly.Proofs.Tree.Concatenation
import Curly.Proofs.Tree.Nesting
import Curly.Proofs.Tree.Parser
import Curly.Proofs.Tree.Scan
import Curly.Proofs.Value.Data
import Curly.Proofs.Value.Entities
import Curly.Proofs.Value.Equality
import Curly.Proofs.Value.Key
import Curly.Proofs.Value.Lookup
import Curly.Proofs.Value.Order
import Curly.Proofs.Value.Text
import Curly.Proofs.Value.Walk
import Curly.Proofs.Value.Written
import Curly.Proofs.Yaml.Fault
import Curly.Registry
import Curly.Rendering
import Curly.Scope
import Curly.Settings
import Curly.Term
import Curly.Term.Form
import Curly.Term.Reader
import Curly.Term.Shorthand
import Curly.Text.Ascii
import Curly.Text.Base64
import Curly.Text.Encoding
import Curly.Text.Lines
import Curly.Text.Padding
import Curly.Text.Quoted
import Curly.Text.Search
import Curly.Text.Space
import Curly.Text.Unicode.Case
import Curly.Text.Unicode.Class
import Curly.Text.Unicode.Identifier
import Curly.Text.Unicode.Letter
import Curly.Text.Unicode.Printable
import Curly.Text.Unicode.Ranges
import Curly.Token
import Curly.Token.Lexer
import Curly.Tree
import Curly.Tree.Parser
import Curly.Value
import Curly.Value.Arithmetic
import Curly.Value.Attribute
import Curly.Value.Conversion
import Curly.Value.Equality
import Curly.Value.Field
import Curly.Value.Field.Presentation
import Curly.Value.Field.Style
import Curly.Value.Index
import Curly.Value.Method
import Curly.Value.Method.Coding
import Curly.Value.Method.Container
import Curly.Value.Method.Mapping
import Curly.Value.Method.Number
import Curly.Value.Method.Parameter
import Curly.Value.Method.Text
import Curly.Value.Order
import Curly.Value.Sorting
import Curly.Value.Text
import Curly.Yaml
import Curly.Yaml.Cursor
import Curly.Yaml.Defect
import Curly.Yaml.Node
import Curly.Yaml.Node.Parser
import Curly.Yaml.Node.Value
import Curly.Yaml.Scalar
import Curly.Yaml.Tag
import Curly.Yaml.Token
import Curly.Yaml.Token.Lexer
