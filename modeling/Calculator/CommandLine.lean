import Calculator.Check
import Calculator.Configuration

/-! The command line: the self-check, a file of expressions, or a dialogue that answers one line
after the other. -/

namespace Calculator

inductive Mode where
  | check
  | file (path : String)
  | dialogue
  deriving DecidableEq, Repr

/-- The mode that the first argument asks for; what looks like an option and is none is passed
over. -/
def Mode.ofArgs : List String → Mode
  | [] => .dialogue
  | arg :: _ =>
      if arg = "--check" then .check
      else if arg.toList.head? = some '-' then .dialogue
      else .file arg

/-- What a session answers to a line: what it writes, the session after it, and whether the line has
a value, unless something stopped it. -/
structure Reply where
  output : Output
  session : Session
  hasValue : Except Failure Bool

/-- What a report is shown as, and whether it reports a value. -/
def Report.show (r : Report) : Except Failure (Output × Bool) :=
  match r.verdict with
  | .value n => do
      let text ← n.written
      pure (.line text, true)
  | .error e => pure (.errorLine (e.format r.source), false)

/-- Answers a line: traced lines come first, then the value or the error. -/
def Session.reply (s : Session) (line : String) (limit : Option Nat := none) : Reply :=
  let handled := s.handle line limit
  let traced : Output := { err := handled.log.output }
  match handled.report >>= Report.show with
  | .ok (shown, hasValue) => ⟨traced ++ shown, handled.session, .ok hasValue⟩
  | .error f => ⟨traced, handled.session, .error f⟩

/-- A line without the blanks at its ends. -/
def trimLine (line : List Char) : String := String.ofList (Text.trimBlanks line)

/-- Whether a line of a file is an expression: empty lines and comments are none. -/
def isExpressionLine (line : String) : Bool := line ≠ "" && line.toList.head? != some '#'

def expressionLines (text : List Char) : List String :=
  ((Text.lines text).map trimLine).filter isExpressionLine

namespace Session

/-- Answers the lines of a file up to the first one without a value. -/
def fileTranscript (s : Session) (lines : List String) (limit : Option Nat := none) :
    Transcript :=
  match lines with
  | [] => ⟨{}, .exit 0⟩
  | line :: rest =>
      let reply := s.reply line limit
      match reply.hasValue with
      | .ok true => (fileTranscript reply.session rest limit).after reply.output
      | .ok false => ⟨reply.output, .exit 1⟩
      | .error f => ⟨reply.output, .stopped f⟩

end Session

inductive Request where
  | nothing
  | leave
  | expression (source : String)
  deriving DecidableEq, Repr

def Request.ofLine (line : List Char) : Request :=
  let source := trimLine line
  if source = "" then .nothing else if source = "exit" then .leave else .expression source

namespace Dialogue

def greeting : Output :=
  .line "RWCALC REPL v0.1" ++ .line "Type 'exit' or press Ctrl+D to quit."

def prompt : Output := { out := ">> " }

def farewell : Output := .line "\nExiting."

/-- What is written in answer to a line, and the session in which the dialogue goes on or the way in
which it ends. -/
def answer (s : Session) (line : List Char) (limit : Option Nat := none) :
    Output × (Session ⊕ Ending) :=
  match Request.ofLine line with
  | .nothing => ({}, .inl s)
  | .leave => ({}, .inr (.exit 0))
  | .expression source =>
      let reply := s.reply source limit
      match reply.hasValue with
      | .ok _ => (reply.output, .inl reply.session)
      | .error f => (reply.output, .inr (.stopped f))

/-- The answers to some lines, each after a prompt. -/
def transcript (s : Session) (lines : List (List Char)) (limit : Option Nat := none) :
    Transcript :=
  match lines with
  | [] => ⟨prompt ++ farewell, .exit 0⟩
  | line :: rest =>
      match answer s line limit with
      | (output, .inl next) => (transcript next rest limit).after (prompt ++ output)
      | (output, .inr ending) => ⟨prompt ++ output, ending⟩

end Dialogue

namespace CommandLine

def errorNote (text : String) : Output := .errorLine ("Error: " ++ text)

/-- Goes on with the settings; a refused setting is reported. -/
def withSettings (around : Surroundings) (next : Settings → Transcript) : Transcript :=
  match Settings.load around none with
  | .ok settings => next settings
  | .error (.config f) => ⟨errorNote f.message, .exit 1⟩
  | .error f => ⟨{}, .stopped f⟩

def session (around : Surroundings) (settings : Settings) : Session :=
  .start settings .empty around.instruments

def file (around : Surroundings) (path : String) : Transcript :=
  withSettings around fun settings =>
    match around.text path with
    | .error (.file _ .missing) => ⟨errorNote ("file not found: " ++ path), .exit 1⟩
    | .error f => ⟨{}, .stopped f⟩
    | .ok text =>
        (session around settings).fileTranscript (expressionLines text) around.limit

def dialogue (around : Surroundings) (input : List Char) : Transcript :=
  (withSettings around fun settings =>
    Dialogue.transcript (session around settings) (Text.inputLines (Text.unifyNewlines input))
      around.limit).after Dialogue.greeting

def run (around : Surroundings) (args : List String) (input : List Char) : Transcript :=
  match Mode.ofArgs args with
  | .check => withSettings around (CheckRun.transcript around.limit)
  | .file path => file around path
  | .dialogue => dialogue around input

end CommandLine

end Calculator
