import Calculator.Pass

/-! Observers of a run.  A pipeline reports every traceable pass before and after it runs; what an
observer makes of the reports is its own state, and it may stop the run by failing. -/

namespace Calculator

/-- A report of one pass. -/
inductive Event where
  | before (name : String) (tokens : List Token)
  | after (name : String) (tokens result : List Token)
  deriving DecidableEq

structure Observer (σ : Type) where
  notice : Event → Action σ Unit

namespace Observer

/-- The observer that takes no notice. -/
def silent : Observer Unit := ⟨fun _ => pure ()⟩

/-- The observer that keeps all events in order. -/
def recorder : Observer (List Event) := ⟨fun event => modify (· ++ [event])⟩

end Observer

/-- What a run works on: the environment and what its observer knows. -/
structure RunState (σ : Type) where
  env : Environment
  noted : σ

/-- A run under observation. -/
abbrev Run (σ α : Type) : Type := Action (RunState σ) α

namespace Run

variable {σ α : Type}

/-- A run that edits the environment, unobserved. -/
def edit (x : Edit α) : Run σ α := x.onPart (·.env) fun s env => { s with env }

def report (o : Observer σ) (event : Event) : Run σ Unit :=
  (o.notice event).onPart (·.noted) fun s noted => { s with noted }

@[simp] theorem result_edit (x : Edit α) (s : RunState σ) :
    (edit x).result s = ((x.result s.env).1, { s with env := (x.result s.env).2 }) := rfl

@[simp] theorem result_report (o : Observer σ) (event : Event) (s : RunState σ) :
    (report o event).result s =
      (((o.notice event).result s.noted).1,
        { s with noted := ((o.notice event).result s.noted).2 }) := rfl

end Run

@[simp] theorem Observer.result_silent (event : Event) (s : Unit) :
    (Observer.silent.notice event).result s = (.ok (), ()) := rfl

@[simp] theorem Observer.result_recorder (event : Event) (events : List Event) :
    (Observer.recorder.notice event).result events = (.ok (), events ++ [event]) := rfl

end Calculator
