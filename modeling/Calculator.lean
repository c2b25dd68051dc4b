import Calculator.Action
import Calculator.Arithmetic.Brackets
import Calculator.Arithmetic.Folds
import Calculator.Arithmetic.Numerals
import Calculator.Arithmetic.Signs
import Calculator.Arithmetic.Standard
import Calculator.Binary64
import Calculator.Calendar
import Calculator.Check
import Calculator.CommandLine
import Calculator.Configuration
import Calculator.Datum
import Calculator.Decimal.Layout
import Calculator.Decimal.Reading
import Calculator.Decimal.Shortest
import Calculator.Environment
import Calculator.Environment.Access
import Calculator.Failure
import Calculator.Main
import Calculator.Number
import Calculator.Observer
import Calculator.Pass
import Calculator.Path
import Calculator.Pipeline
import Calculator.Power
import Calculator.Printer
import Calculator.Proofs.Chain
import Calculator.Proofs.Folding
import Calculator.Registry
import Calculator.Session
import Calculator.Settings
import Calculator.Source
import Calculator.Template.Basic
import Calculator.Template.Reading
import Calculator.Template.Render
import Calculator.Template.Tag
import Calculator.Text.Blank
import Calculator.Text.Case
import Calculator.Text.CodePoint
import Calculator.Text.Digit
import Calculator.Text.Letter
import Calculator.Text.Line
import Calculator.Text.Lower
import Calculator.Text.Quoted
import Calculator.Text.Ranges
import Calculator.Text.Utf8
import Calculator.Text.Visible
import Calculator.Token
import Calculator.Trace
import Calculator.Transcript
import Calculator.Value
import Calculator.Variables
import Calculator.Window
import Calculator.Yaml.BlockScalar
import Calculator.Yaml.Cursor
import Calculator.Yaml.Document
import Calculator.Yaml.Form
import Calculator.Yaml.Graph
import Calculator.Yaml.Graph.Merging
import Calculator.Yaml.Graph.Reading
import Calculator.Yaml.Lexeme
import Calculator.Yaml.Lexeme.Reading
import Calculator.Yaml.Lexeme.Word
import Calculator.Yaml.PlainScalar
import Calculator.Yaml.QuotedScalar
import Calculator.Yaml.Scalar
import Calculator.Yaml.Timestamp
import Calculator.Yaml.Value
import Calculator.Yaml.Value.Building
import Calculator.Yaml.Value.Description
import Calculator.Yaml.Value.Slots
import Calculator.Proofs.Evaluation
import Calculator.Proofs.Offsets
import Calculator.Proofs.Bindings
import Calculator.Proofs.Expression
import Calculator.Proofs.Reduction
import Calculator.Proofs.Values
import Calculator.Proofs.Assignments
import Calculator.Proofs.Sessions
import Calculator.Proofs.Parentheses
import Calculator.Proofs.Balance
import Calculator.Proofs.WellFormed
import Calculator.Proofs.Positions
import Calculator.Proofs.Unbound
import Calculator.Proofs.NestingLimits
import Calculator.Proofs.Limits
import Calculator.Proofs.Residue
import Calculator.Proofs.Nesting
import Calculator.Proofs.Matching
import Calculator.Proofs.Enclosure
import Calculator.Proofs.Writes
import Calculator.Proofs.Comparison
import Calculator.Proofs.Resemblance
import Calculator.Proofs.Clocks
import Calculator.Proofs.Blanks
import Calculator.Proofs.Digits
import Calculator.Proofs.Events
import Calculator.Proofs.Flatness
import Calculator.Proofs.Tracing
import Calculator.Proofs.Assembly
import Calculator.Proofs.Schema
import Calculator.Proofs.Loading
import Calculator.Proofs.Turns
import Calculator.Proofs.Modes
import Calculator.Proofs.FlatExpressions
import Calculator.Proofs.NormalForm
import Calculator.Proofs.Forests
import Calculator.Proofs.Remnants
import Calculator.Proofs.OpenReduction
import Calculator.Proofs.OpenRuns
import Calculator.Proofs.Diagnosis
import Calculator.Proofs.Windows
import Calculator.Proofs.Measures
import Calculator.Proofs.DigitRuns
import Calculator.Proofs.RoundTrips
import Calculator.Proofs.Signs
import Calculator.Proofs.Keywords
import Calculator.Proofs.Accesses
