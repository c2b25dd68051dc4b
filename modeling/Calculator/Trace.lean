import Calculator.Observer
import Calculator.Printer
import Calculator.Template.Render

/-! Tracing.  A tracer writes a line before and a line after each pass that it is told of, from two
templates, and indents it by the number of passes that are under way. -/

namespace Calculator

/-- What a tracer works with that the program does not make itself. -/
structure Instruments where
  renderer : Template.Renderer := Template.render
  /-- The text of the time at each reading of the clock. -/
  clock : Nat → String := fun _ => ""

/-- The instruments after some readings of the clock. -/
def Instruments.advance (i : Instruments) (readings : Nat) : Instruments :=
  { i with clock := fun n => i.clock (readings + n) }

structure Tracer where
  calls : Bool := true
  results : Bool := true
  callTemplate : Text.Points := Text.points
    "calling \x7b\x7bname\x7d\x7d(\x7b\x7bargs\x7d\x7d)"
  resultTemplate : Text.Points := Text.points
    "\x7b\x7bname\x7d\x7d(\x7b\x7bargs\x7d\x7d) = \x7b\x7bresult\x7d\x7d"
  indent : String := "  "
  instruments : Instruments := {}

structure TraceLog where
  /-- How many passes are under way. -/
  depth : Nat := 0
  lines : List String := []
  /-- What the stream that the lines go to has received. -/
  output : String := ""
  /-- How often the clock was read: once for each line, also for one that could not be filled in. -/
  readings : Nat := 0
  deriving DecidableEq, Repr

namespace Tracer

/-- The tokens that a pass is given and those of its result, printed; the latter are missing while
the pass is under way. -/
def printed (tokens : List Token) (result : Option (List Token)) :
    Except Failure (String × String) := do
  let printer : Printer := {}
  let args ← printer.tokens tokens
  let shown ← match result with
    | some result => printer.tokens result
    | none => .ok ""
  pure (args, shown)

/-- The line that a template is filled in to. -/
def filled (t : Tracer) (template : Text.Points) (name args result : String) (depth : Nat)
    (time : String) : Except Failure String :=
  let fields : Template.Fields :=
    [("name", .text name), ("args", .text args), ("result", .text result), ("depth", .count depth),
      ("time", .text time)]
  match t.instruments.renderer template fields with
  | .ok text => .ok (String.join (List.replicate depth t.indent) ++ text)
  | .error f => .error (.template f)

/-- Writes a line, which is kept and goes to the stream.  The clock is read once the tokens have been
printed. -/
def write (t : Tracer) (template : Text.Points) (name : String) (tokens : List Token)
    (result : Option (List Token)) : Action TraceLog Unit := do
  let log ← get
  let (args, shown) ← Action.ofExcept (printed tokens result)
  set { log with readings := log.readings + 1 }
  let time := t.instruments.clock log.readings
  let line ← Action.ofExcept (t.filled template name args shown log.depth time)
  modify fun log => { log with lines := log.lines ++ [line] }
  modify fun log => { log with output := log.output ++ line ++ "\n" }

/-- The line before a pass is written at the depth around it, and so is the line after it. -/
def notice (t : Tracer) : Event → Action TraceLog Unit
  | .before name tokens => do
      if t.calls then t.write t.callTemplate name tokens none
      modify fun log => { log with depth := log.depth + 1 }
  | .after name tokens result => do
      modify fun log => { log with depth := log.depth - 1 }
      if t.results then t.write t.resultTemplate name tokens (some result)

def observer (t : Tracer) : Observer TraceLog := ⟨t.notice⟩

end Tracer

end Calculator
