import Calculator.Session
import Calculator.Transcript

/-! The self-check.  It evaluates expressions whose values are known and says of each whether the
first token that comes out is that value. -/

namespace Calculator

/-- The report of one check: the tokens that came out, and whether the first one is the value that
was expected. -/
structure CheckReport where
  source : String
  expected : Datum
  result : List Token
  correct : Bool

/-- Whether the first of some tokens is a number of a given value. -/
def startsWith (expected : Datum) : List Token → Bool
  | .number n :: _ => expected.asNumber?.any n.same
  | _ => false

/-- Evaluates a line and compares the first token with a value. -/
def Session.check (source : String) (expected : Datum) (limit : Option Nat := none) :
    Action Session CheckReport := do
  let tokens ← evaluate source limit
  pure ⟨source, expected, tokens, startsWith expected tokens⟩

structure Scenario where
  source : String
  expected : Number

namespace Scenario

def arithmetic : List Scenario :=
  [⟨"(3+(2*3)/(1-3))", .float (3 + 6 / -2)⟩,
    ⟨"-12-34+56*78/90", .float (-46 + 4368 / 90)⟩,
    ⟨"12-34+56*78/90", .float (-22 + 4368 / 90)⟩,
    ⟨"12-34+56", .int 34⟩,
    ⟨"56*78/90", .float (4368 / 90)⟩]

/-- Scenarios in which the second line reads what the first one binds. -/
def assignment : List Scenario :=
  [⟨"set(x,3)", .int 3⟩, ⟨"(x+(2*x)/(1-x))", .float (3 + 6 / -2)⟩]

end Scenario

structure CheckRun where
  session : Session
  output : Output := {}
  failures : Nat := 0

namespace CheckRun

def say (text : String) : Action CheckRun Unit :=
  modify fun run => { run with output := run.output ++ .line text }

def countFailure : Action CheckRun Unit :=
  modify fun run => { run with failures := run.failures + 1 }

def tell (report : CheckReport) : Action CheckRun Unit := do
  let printer : Printer := {}
  say ("s: " ++ report.source)
  let answer ← Action.ofExcept (printer.print report.expected)
  say ("answer: " ++ answer)
  let result ← Action.ofExcept (printer.tokens report.result)
  say ("result: [" ++ result ++ "]")
  say ("correct: " ++ if report.correct then "true" else "false")
  if !report.correct then countFailure

/-- Checks one scenario.  An evaluation error is a failed check and no more. -/
def scenario (limit : Option Nat) (c : Scenario) : Action CheckRun Unit := do
  let run ← get
  let (outcome, session) := (Session.check c.source (.number c.expected) limit).result run.session
  set { run with session }
  match outcome with
  | .ok report => tell report
  | .error (.evaluation e) => do
      say ("s: " ++ c.source)
      say ("error: " ++ e.message)
      countFailure
  | .error f => throw f

/-- Checks some scenarios in a session of their own. -/
def batch (limit : Option Nat) (settings : Settings) (scenarios : List Scenario) :
    Action CheckRun Unit := do
  modify fun run => { run with session := .start settings }
  scenarios.forM (scenario limit)

def all (limit : Option Nat) (settings : Settings) : Action CheckRun Unit := do
  batch limit settings Scenario.arithmetic
  batch limit settings Scenario.assignment

/-- The transcript of the self-check: its status is one if a check fails. -/
def transcript (limit : Option Nat) (settings : Settings) : Transcript :=
  match (all limit settings).result { session := .start settings } with
  | (.ok _, run) => ⟨run.output, .exit (if run.failures = 0 then 0 else 1)⟩
  | (.error f, run) => ⟨run.output, .stopped f⟩

end CheckRun

end Calculator
