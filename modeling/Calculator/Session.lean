import Calculator.Arithmetic.Standard
import Calculator.Environment.Access
import Calculator.Settings
import Calculator.Source
import Calculator.Value
import Calculator.Variables

/-! Sessions.  A session evaluates lines one after the other with the same pipeline; what a line
binds is there for the next one.  It reports evaluation errors, and every other failure stops it. -/

namespace Calculator

structure Session where
  settings : Settings
  pipeline : Pipeline
  env : Environment
  instruments : Instruments := {}

/-- The environment with the bindings of some settings on top. -/
def Settings.bindOn (s : Settings) (env : Environment) : Environment :=
  s.bindings.foldl (fun env b => env.insert b.1 (.number (.int b.2))) env

def Settings.pipeline (s : Settings) : Pipeline :=
  if s.hasVariables then Pipeline.standard.withVariables else .standard

/-- What an expression comes to. -/
inductive Verdict where
  | value (n : Number)
  | error (e : EvaluationError)

/-- Where a message goes. -/
inductive Topic where
  | trace
  | error
  deriving DecidableEq, Repr

def Topic.name : Topic → String
  | .trace => "trace"
  | .error => "stderr"

structure Message where
  topic : Topic
  text : String
  deriving DecidableEq, Repr

/-- The report on a line: what it comes to, the tokens that the pipeline made of it, and the lines
that were traced on the way. -/
structure Report where
  source : String
  verdict : Verdict
  tokens : List Token
  traced : List String

namespace Report

def errorText? (r : Report) : Option String :=
  match r.verdict with
  | .value _ => none
  | .error e => some (e.format r.source)

/-- All messages of a report, those of the tracer first. -/
def messages (r : Report) : List Message :=
  r.traced.map (fun line => ⟨.trace, line⟩) ++ r.errorText?.toList.map fun text => ⟨.error, text⟩

end Report

/-- What has become of a line: the session after it, what was traced, and the report unless
something else than an evaluation error stopped it. -/
structure Handled where
  session : Session
  log : TraceLog
  report : Except Failure Report

namespace Session

def startWith (settings : Settings) (pipeline : Pipeline) (env : Environment)
    (instruments : Instruments := {}) : Session :=
  { settings, pipeline, env := settings.bindOn env, instruments }

/-- A session with the pipeline that the settings ask for. -/
def start (settings : Settings) (env : Environment := .empty) (instruments : Instruments := {}) :
    Session :=
  startWith settings settings.pipeline env instruments

/-- An edit of the environment, as an action on the session. -/
def edit {α : Type} (x : Edit α) : Action Session α := x.onPart (·.env) fun s env => { s with env }

/-- Evaluates a line.  The limit is the one of the interpreter on how deep runs may nest. -/
def evaluate (source : String) (limit : Option Nat := none) : Action Session (List Token) := do
  let s ← get
  edit (s.pipeline.runSilently (tokenize source) limit)

def compute (source : String) (limit : Option Nat := none) : Action Session Number := do
  let tokens ← evaluate source limit
  Action.ofExcept (finalValue tokens)

def bind (name : String) (value : Token) : Action Session Unit :=
  edit (modify fun env => env.insert name value)

def reportOf (source : String) (traced : List String) (run : Except Failure (List Token)) :
    Except Failure Report :=
  match run with
  | .error (.evaluation e) => .ok ⟨source, .error e, [], traced⟩
  | .error f => .error f
  | .ok tokens =>
      match finalValue tokens with
      | .ok n => .ok ⟨source, .value n, tokens, traced⟩
      | .error (.evaluation e) => .ok ⟨source, .error e, tokens, traced⟩
      | .error f => .error f

/-- Evaluates a line, traced if the settings ask for it. -/
def handle (s : Session) (source : String) (limit : Option Nat := none) : Handled :=
  match s.settings.tracer? s.instruments with
  | none =>
      let (run, env) := (s.pipeline.runSilently (tokenize source) limit).result s.env
      ⟨{ s with env }, {}, reportOf source [] run⟩
  | some tracer =>
      let (run, after) :=
        (s.pipeline.run tracer.observer (tokenize source) limit).result ⟨s.env, {}⟩
      let instruments := s.instruments.advance after.noted.readings
      ⟨{ s with env := after.env, instruments }, after.noted,
        reportOf source after.noted.lines run⟩

@[simp] theorem result_edit {α : Type} (x : Edit α) (s : Session) :
    (edit x).result s = ((x.result s.env).1, { s with env := (x.result s.env).2 }) := rfl

@[simp] theorem settings_handle (s : Session) (source : String) (limit : Option Nat) :
    (s.handle source limit).session.settings = s.settings := by
  unfold handle
  split <;> rfl

@[simp] theorem pipeline_handle (s : Session) (source : String) (limit : Option Nat) :
    (s.handle source limit).session.pipeline = s.pipeline := by
  unfold handle
  split <;> rfl

end Session

end Calculator
