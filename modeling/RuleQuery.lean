import RuleQuery.Config.File
import RuleQuery.Config.Settings
import RuleQuery.Digest.Sha256
import RuleQuery.Json.Magnitude
import RuleQuery.Json.Reader
import RuleQuery.Json.Record
import RuleQuery.Json.Token
import RuleQuery.Json.Value
import RuleQuery.Json.Writer
import RuleQuery.Log.Directory
import RuleQuery.Log.Filter
import RuleQuery.Log.Level
import RuleQuery.Log.Pattern.Class
import RuleQuery.Log.Pattern.Group
import RuleQuery.Log.Pattern.Symbol
import RuleQuery.Log.Pattern.Validity
import RuleQuery.Log.Setup
import RuleQuery.Peg.Diagnostic
import RuleQuery.Peg.Expression
import RuleQuery.Peg.Furthest
import RuleQuery.Peg.Matcher
import RuleQuery.Plan.Descriptor
import RuleQuery.Plan.Error
import RuleQuery.Plan.Json
import RuleQuery.Plan.Pattern
import RuleQuery.Plan.Prototype
import RuleQuery.Plan.Registry
import RuleQuery.Plan.RuleSource
import RuleQuery.Plan.Validity
import RuleQuery.Plan.Variable
import RuleQuery.Planner.Body
import RuleQuery.Planner.Error
import RuleQuery.Planner.Event
import RuleQuery.Planner.Scope
import RuleQuery.Planner.Session
import RuleQuery.Proofs.Json.RoundTrip
import RuleQuery.Proofs.Json.Spelling
import RuleQuery.Proofs.Peg.Derivation
import RuleQuery.Proofs.Peg.Lettercase
import RuleQuery.Proofs.Plan.FreeName
import RuleQuery.Proofs.Plan.Prototypes
import RuleQuery.Proofs.Plan.RoundTrip
import RuleQuery.Proofs.Plan.Validity
import RuleQuery.Proofs.Planner.Calls
import RuleQuery.Proofs.Planner.History
import RuleQuery.Proofs.Planner.Lettercase
import RuleQuery.Proofs.Planner.Obstacle
import RuleQuery.Proofs.Planner.Planned
import RuleQuery.Proofs.Planner.Steps
import RuleQuery.Proofs.Planner.Verdict
import RuleQuery.Proofs.Sql.Acceptance
import RuleQuery.Proofs.Sql.Built
import RuleQuery.Proofs.Sql.Lettercase
import RuleQuery.Proofs.Sql.Lexeme
import RuleQuery.Proofs.Sql.Phrase
import RuleQuery.Proofs.Sql.Reading
import RuleQuery.Proofs.Sql.Statement
import RuleQuery.Proofs.Sql.Token
import RuleQuery.Proofs.Sql.WellFormed
import RuleQuery.Proofs.Sql.Word
import RuleQuery.Proofs.Text.Lettercase
import RuleQuery.Proofs.Text.Runs
import RuleQuery.Sql.Build
import RuleQuery.Sql.Expr
import RuleQuery.Sql.Gap
import RuleQuery.Sql.Grammar
import RuleQuery.Sql.Json
import RuleQuery.Sql.Keyword
import RuleQuery.Sql.Operand
import RuleQuery.Sql.Parse
import RuleQuery.Sql.Rule
import RuleQuery.Sql.Select
import RuleQuery.Text.Alphabetic
import RuleQuery.Text.Alphanumeric
import RuleQuery.Text.Blank
import RuleQuery.Text.Bytes
import RuleQuery.Text.Cased
import RuleQuery.Text.CodeRange
import RuleQuery.Text.Decimal
import RuleQuery.Text.Hexadecimal
import RuleQuery.Text.Hidden
import RuleQuery.Text.Lowercase
import RuleQuery.Text.Numeral
import RuleQuery.Text.Quoted
import RuleQuery.Text.Split
import RuleQuery.Yaml.Folding
import RuleQuery.Yaml.Mark
import RuleQuery.Yaml.Node
import RuleQuery.Yaml.Reader
import RuleQuery.Yaml.Scalar
import RuleQuery.Proofs.Peg.Occurrence
import RuleQuery.Proofs.Sql.Integers
import RuleQuery.Proofs.Sql.Operand
import RuleQuery.Proofs.Plan.RuleSource
import RuleQuery.Proofs.Planner.SmallNames
import RuleQuery.Proofs.Planner.RuleText
import RuleQuery.Proofs.Planner.NonGoals
import RuleQuery.Proofs.Planner.Bindings
import RuleQuery.Proofs.Planner.OperandOrder
import RuleQuery.Proofs.Sql.RoundTrip
import RuleQuery.Proofs.Sql.Precedence
import RuleQuery.Proofs.Sql.Parentheses
import RuleQuery.Proofs.Plan.FirstFault
import RuleQuery.Proofs.Plan.Lookup
import RuleQuery.Proofs.Planner.Rendered
import RuleQuery.Proofs.Planner.GroupKeys
import RuleQuery.Proofs.Text.Caseless
import RuleQuery.Proofs.Planner.Aliases
import RuleQuery.Proofs.Sql.WordBoundary
import RuleQuery.Proofs.Planner.Declarations
import RuleQuery.Proofs.Text.Settled
import RuleQuery.Proofs.Planner.Operands
import RuleQuery.Proofs.Planner.Trace
