import Calculator.Calendar
import Calculator.Path
import Calculator.Template.Basic
import Calculator.Text.Utf8
import Calculator.Token

/-! Failures.  An evaluation fails for a cause that lies in the expression and, where one token is
to blame, with that token; everything else that can stop a run is a failure of its own. -/

namespace Calculator

inductive ErrorKind where
  | evaluation
  | unbalancedParens
  | unknownVariable
  | malformedExpression
  | divisionByZero
  deriving DecidableEq, Repr

def ErrorKind.name : ErrorKind → String
  | .evaluation => "EvaluationError"
  | .unbalancedParens => "UnbalancedParens"
  | .unknownVariable => "UnknownVariable"
  | .malformedExpression => "MalformedExpression"
  | .divisionByZero => "DivisionByZero"

/-- Why an expression has no value. -/
inductive Cause where
  | empty
  | unmatchedOpen
  | unmatchedClose
  | unbound (name : String)
  | notANumber (text : String)
  | notAName (text : String)
  /-- More than one number, or something else than a number, is left. -/
  | notReduced (rendered : String)
  | zeroDivisor
  /-- What a pass outside the standard ones reports. -/
  | reported (kind : ErrorKind) (message : String)
  deriving DecidableEq, Repr

def Cause.kind : Cause → ErrorKind
  | .empty | .notANumber _ | .notAName _ | .notReduced _ => .malformedExpression
  | .unmatchedOpen | .unmatchedClose => .unbalancedParens
  | .unbound _ => .unknownVariable
  | .zeroDivisor => .divisionByZero
  | .reported kind _ => kind

def Cause.message : Cause → String
  | .empty => "empty expression"
  | .unmatchedOpen => "unmatched '('"
  | .unmatchedClose => "unmatched ')'"
  | .unbound name => "'" ++ name ++ "' is not bound"
  | .notANumber text => "expected a number, got " ++ Text.quoted text
  | .notAName text => "cannot assign to " ++ Text.quoted text
  | .notReduced rendered => "does not reduce to a single number: " ++ rendered
  | .zeroDivisor => "division by zero"
  | .reported _ message => message

/-- An evaluation error: its cause and the token it points at. -/
structure EvaluationError where
  cause : Cause
  token : Option Token
  deriving DecidableEq

namespace EvaluationError

def kind (e : EvaluationError) : ErrorKind := e.cause.kind

def message (e : EvaluationError) : String := e.cause.message

/-- The source with a caret under one of its columns. -/
def pointAt (source : String) (offset : Int) : String :=
  "  | " ++ source ++ "\n  | " ++ "".pushn ' ' offset.toNat ++ "^"

/-- The kind and the message of an error and, where its token has an offset, the column and the
source with a caret under it. -/
def format (e : EvaluationError) (source : String) : String :=
  let line := e.kind.name ++ ": " ++ e.message
  match e.token.bind Token.offset? with
  | none => line
  | some offset =>
      line ++ "\n(col " ++ toString (offset + 1) ++ ")\n" ++ pointAt source offset

end EvaluationError

/-- Why a setting is refused. -/
inductive ConfigFault where
  | fileMissing (path : String)
  | invalidYaml (path : String)
  /-- A value is of another type than a setting asks for. -/
  | wrongType (place expected found : String)
  | notALetter (source described : String)
  | notAnInteger (source name described : String)
  | notAFlag (setting text : String)
  deriving DecidableEq, Repr

def ConfigFault.message : ConfigFault → String
  | .fileMissing path => "config file not found: " ++ path
  | .invalidYaml path => path ++ ": invalid YAML"
  | .wrongType place expected found => place ++ ": expected " ++ expected ++ ", got " ++ found
  | .notALetter source described =>
      source ++ ": bindings: variable names are single letters, got " ++ described
  | .notAnInteger source name described =>
      source ++ ": bindings." ++ name ++ ": expected an integer, got " ++ described
  | .notAFlag setting text => setting ++ ": expected a boolean, got " ++ Text.quoted text

/-- What can stop a run. -/
inductive Failure where
  | evaluation (e : EvaluationError)
  | overflow (o : Number.Overflow)
  | unreadable (f : Decimal.ReadFault)
  /-- An integer has too many digits to be written. -/
  | unwritable
  /-- A token that is no name is used as one. -/
  | notAName (described : String)
  /-- A value that is neither a text nor a token is used as a name. -/
  | keyType (type : String)
  /-- A value that is no token is bound to a name. -/
  | valueType (type : String)
  | unboundName (name : Text.Points)
  /-- A pass that runs its pipeline is called outside of one. -/
  | noPipeline (pass : String)
  /-- Passes have run their pipeline inside each other too often, or a value of a document would
  have to be read off itself. -/
  | nestedTooDeep
  | template (f : Template.Fault)
  | undecodable (f : Text.Utf8.Fault)
  | file (path : String) (f : FileFault)
  | config (f : ConfigFault)
  /-- A text given for one character is shorter or longer. -/
  | notOneCharacter (text : String)
  /-- An escape of a document names a code point beyond the last one. -/
  | noSuchCharacter (code : Nat)
  /-- A text of a document that is tagged as a number is empty. -/
  | emptyNumber
  /-- A word of a document that is tagged as a truth value is none. -/
  | notATruthValue (word : List Text.CodePoint)
  /-- A text of a document that is tagged as a date is none, or names no day there is. -/
  | notADate (f : DateFault)
  /-- A mapping of a document is tagged as a date. -/
  | mappingForDate
  deriving DecidableEq

def Text.Utf8.Reason.message : Text.Utf8.Reason → String
  | .invalidStart => "invalid start byte"
  | .invalidContinuation => "invalid continuation byte"
  | .unexpectedEnd => "unexpected end of data"

def Text.Utf8.Fault.message (f : Text.Utf8.Fault) : String :=
  let place :=
    if f.stop = f.start + 1 then
      "byte 0x" ++ String.ofList (Text.hexDigits 2 f.first.toNat) ++ " in position "
        ++ toString f.start
    else "bytes in position " ++ toString f.start ++ "-" ++ toString (f.stop - 1)
  "'utf-8' codec can't decode " ++ place ++ ": " ++ f.reason.message

def Failure.message : Failure → String
  | .evaluation e => e.message
  | .overflow o => o.message
  | .unreadable f => f.message
  | .unwritable =>
      "Exceeds the limit (" ++ toString Decimal.digitLimit
        ++ " digits) for integer string conversion; use sys.set_int_max_str_digits() to increase "
        ++ "the limit"
  | .notAName described => described ++ " is not an identifier token"
  | .keyType type => "Environment key must be a str, not " ++ type
  | .valueType type => "Environment values must be tokens, not " ++ type
  | .unboundName name => Text.quotedPoints name
  | .noPipeline pass => pass ++ " is not bound to a pipeline"
  | .nestedTooDeep => "maximum recursion depth exceeded"
  | .template f => f.message
  | .undecodable f => f.message
  | .file path f => f.message path
  | .config f => f.message
  | .notOneCharacter text => "Char holds exactly one character, got " ++ Text.quoted text
  | .noSuchCharacter code =>
      if code < 0x80000000 then "chr() arg not in range(0x110000)"
      else "Python int too large to convert to C int"
  | .emptyNumber => "string index out of range"
  | .notATruthValue word => Text.quotedPoints word
  | .notADate f => f.message
  | .mappingForDate => "expected string or bytes-like object, got 'list'"

/-- An evaluation error that points at a token. -/
def Failure.at (cause : Cause) (token : Token) : Failure := .evaluation ⟨cause, some token⟩

/-- The result of an operation on numbers, with its overflow as a failure. -/
def Failure.ofOverflow {α : Type} : Except Number.Overflow α → Except Failure α
  | .ok a => .ok a
  | .error o => .error (.overflow o)

/-- The text of a number, if it may be written. -/
def Number.written (n : Number) : Except Failure String :=
  if n.isWritable then .ok n.text else .error .unwritable

namespace Token

def written (t : Token) : Except Failure String :=
  if t.isWritable then .ok t.text else .error .unwritable

/-- The description of a token, if it may be written. -/
def described (t : Token) : Except Failure String :=
  if t.isWritable then .ok t.describe else .error .unwritable

def name (t : Token) : Except Failure String :=
  match t.name? with
  | some name => .ok name
  | none => do throw (.notAName (← t.described))

theorem name_eq_ok_iff {t : Token} {name : String} : t.name = .ok name ↔ t.name? = some name := by
  unfold Token.name
  split
  · simp_all
  · rename_i h
    simp only [h, reduceCtorEq, iff_false]
    cases t.described <;> simp [bind, Except.bind, throw, throwThe, MonadExceptOf.throw]

end Token

end Calculator
