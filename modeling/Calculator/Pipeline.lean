import Calculator.Observer

/-! Pipelines.  A pipeline runs its passes one after the other, each on the result of the one before
it.  The nested passes of a pipeline run that pipeline itself, whichever way it was put together. -/

namespace Calculator

structure Pipeline where
  passes : List Pass

namespace Pipeline

variable {σ : Type}

def empty : Pipeline := ⟨[]⟩

def insertFront (l : Pipeline) (p : Pass) : Pipeline := ⟨p :: l.passes⟩

def insertEnd (l : Pipeline) (p : Pass) : Pipeline := ⟨l.passes ++ [p]⟩

def names (l : Pipeline) : List String := l.passes.map Pass.name

def size (l : Pipeline) : Nat := l.passes.length

def describe (l : Pipeline) : String :=
  "<Pipeline passes=[" ++ String.intercalate ", " l.names ++ "]>"

/-- One pass on some tokens, given the way to run the pipeline. -/
def apply (inner : List Token → Run σ (List Token)) (p : Pass) (tokens : List Token) :
    Run σ (List Token) :=
  match p.body with
  | .edit f => Run.edit (f tokens)
  | .nested plan => (plan tokens).carryOut inner

/-- One pass, reported before and after if it is traceable. -/
def applyReported (o : Observer σ) (inner : List Token → Run σ (List Token)) (p : Pass)
    (tokens : List Token) : Run σ (List Token) :=
  if p.traceable then do
    Run.report o (.before p.name tokens)
    let result ← apply inner p tokens
    Run.report o (.after p.name tokens result)
    pure result
  else apply inner p tokens

def runPasses (o : Observer σ) (inner : List Token → Run σ (List Token)) :
    List Pass → List Token → Run σ (List Token)
  | [], tokens => pure tokens
  | p :: passes, tokens => do
      let result ← applyReported o inner p tokens
      runPasses o inner passes result

/-- A run in which at most `depth` runs of the pipeline lie inside each other. -/
def runWithin (o : Observer σ) (l : Pipeline) : Nat → List Token → Run σ (List Token)
  | 0, _ => throw .nestedTooDeep
  | depth + 1, tokens => runPasses o (runWithin o l depth) l.passes tokens

/-- How deep runs may nest: as deep as the limit of the interpreter lets them.  Where nothing limits
them, passes that never lengthen a list, and run the pipeline on shorter ones, stay within the
length of their input; the rest is for passes that do lengthen lists. -/
def depthFor (tokens : List Token) (limit : Option Nat := none) : Nat :=
  limit.elim (tokens.length + 250) id

def run (o : Observer σ) (l : Pipeline) (tokens : List Token) (limit : Option Nat := none) :
    Run σ (List Token) :=
  runWithin o l (depthFor tokens limit) tokens

def runSilently (l : Pipeline) (tokens : List Token) (limit : Option Nat := none) :
    Edit (List Token) :=
  (run .silent l tokens limit).onPart (fun env => ⟨env, ()⟩) fun _ s => s.env

@[simp] theorem depthFor_unlimited (tokens : List Token) :
    depthFor tokens = tokens.length + 250 := rfl

@[simp] theorem depthFor_limited (tokens : List Token) (limit : Nat) :
    depthFor tokens (some limit) = limit := rfl

@[simp] theorem names_insertFront (l : Pipeline) (p : Pass) :
    (l.insertFront p).names = p.name :: l.names := rfl

@[simp] theorem names_insertEnd (l : Pipeline) (p : Pass) :
    (l.insertEnd p).names = l.names ++ [p.name] := by
  simp [names, insertEnd]

theorem applyReported_of_traceable {p : Pass} (hp : p.traceable = true) (o : Observer σ)
    (inner : List Token → Run σ (List Token)) (tokens : List Token) :
    applyReported o inner p tokens = (do
      Run.report o (.before p.name tokens)
      let result ← apply inner p tokens
      Run.report o (.after p.name tokens result)
      pure result) := by
  rw [applyReported, if_pos hp]

@[simp] theorem runPasses_nil (o : Observer σ) (inner : List Token → Run σ (List Token))
    (tokens : List Token) : runPasses o inner [] tokens = pure tokens := rfl

theorem runPasses_cons (o : Observer σ) (inner : List Token → Run σ (List Token)) (p : Pass)
    (passes : List Pass) (tokens : List Token) :
    runPasses o inner (p :: passes) tokens =
      (do let result ← applyReported o inner p tokens; runPasses o inner passes result) := rfl

/-- A list of passes runs as its two parts one after the other. -/
theorem runPasses_append (o : Observer σ) (inner : List Token → Run σ (List Token))
    (first second : List Pass) (tokens : List Token) :
    runPasses o inner (first ++ second) tokens =
      (do let result ← runPasses o inner first tokens; runPasses o inner second result) := by
  induction first generalizing tokens with
  | nil => simp
  | cons p first ih => simp [runPasses_cons, ih]

end Pipeline

end Calculator
