import Calculator.Pipeline

/-! Registries of pipelines.  A pipeline that is made keeps copies of its passes, and its copy of a
nested pass is bound to that very pipeline, whichever one it was bound to before.  Inserting a pass
makes a new pipeline and leaves the old one as it is. -/

namespace Calculator

/-- The number of a pipeline, in the order in which pipelines are made. -/
abbrev PipelineId : Type := Nat

/-- A copy of a pass, with the pipeline that it runs if it is nested and has been bound to one. -/
structure BoundPass where
  pass : Pass
  pipeline? : Option PipelineId := none

namespace BoundPass

/-- The copy that a pipeline keeps of a pass. -/
def bind (id : PipelineId) (p : BoundPass) : BoundPass :=
  if p.pass.isNested then { p with pipeline? := some id } else p

/-- A nested pass is bound to the pipeline. -/
def IsBoundTo (id : PipelineId) (p : BoundPass) : Prop :=
  p.pass.isNested = true → p.pipeline? = some id

@[simp] theorem pass_bind (id : PipelineId) (p : BoundPass) : (p.bind id).pass = p.pass := by
  rw [bind]
  split <;> rfl

theorem isBoundTo_bind (id : PipelineId) (p : BoundPass) : (p.bind id).IsBoundTo id := by
  intro h
  rw [pass_bind] at h
  rw [bind, if_pos h]

end BoundPass

/-- The pipelines that have been made, the first one first. -/
structure Registry where
  made : List (List BoundPass) := []

namespace Registry

variable {σ : Type}

/-- The passes of a pipeline.  One that has not been made has none. -/
def passes (r : Registry) (id : PipelineId) : List BoundPass := (r.made[id]?).getD []

/-- Makes a pipeline of some passes. -/
def make (r : Registry) (passes : List BoundPass) : Registry × PipelineId :=
  (⟨r.made ++ [passes.map (.bind r.made.length)]⟩, r.made.length)

def insertFront (r : Registry) (id : PipelineId) (p : BoundPass) : Registry × PipelineId :=
  r.make (p :: r.passes id)

def insertEnd (r : Registry) (id : PipelineId) (p : BoundPass) : Registry × PipelineId :=
  r.make (r.passes id ++ [p])

def stackBefore (r : Registry) (id : PipelineId) (p : BoundPass) : Registry × PipelineId :=
  r.insertFront id p

def stackAfter (r : Registry) (id : PipelineId) (p : BoundPass) : Registry × PipelineId :=
  r.insertEnd id p

/-- A pipeline apart from what its passes are bound to. -/
def pipeline (r : Registry) (id : PipelineId) : Pipeline := ⟨(r.passes id).map (·.pass)⟩

/-- One pass on some tokens, given the way to run each pipeline.  A nested pass that is bound to
none has nothing to run. -/
def apply (inner : PipelineId → List Token → Run σ (List Token)) (p : BoundPass)
    (tokens : List Token) : Run σ (List Token) :=
  match p.pass.body, p.pipeline? with
  | .edit f, _ => Run.edit (f tokens)
  | .nested _, none => throw (.noPipeline p.pass.name)
  | .nested plan, some id => (plan tokens).carryOut (inner id)

/-- One pass, reported before and after if it is traceable. -/
def applyReported (o : Observer σ) (inner : PipelineId → List Token → Run σ (List Token))
    (p : BoundPass) (tokens : List Token) : Run σ (List Token) :=
  if p.pass.traceable then do
    Run.report o (.before p.pass.name tokens)
    let result ← apply inner p tokens
    Run.report o (.after p.pass.name tokens result)
    pure result
  else apply inner p tokens

def runPasses (o : Observer σ) (inner : PipelineId → List Token → Run σ (List Token)) :
    List BoundPass → List Token → Run σ (List Token)
  | [], tokens => pure tokens
  | p :: passes, tokens => do
      let result ← applyReported o inner p tokens
      runPasses o inner passes result

/-- A run of a pipeline in which at most `depth` runs lie inside each other, each of the pipeline
that the pass which starts it is bound to. -/
def runWithin (o : Observer σ) (r : Registry) : Nat → PipelineId → List Token → Run σ (List Token)
  | 0, _, _ => throw .nestedTooDeep
  | depth + 1, id, tokens => runPasses o (runWithin o r depth) (r.passes id) tokens

def run (o : Observer σ) (r : Registry) (id : PipelineId) (tokens : List Token) :
    Run σ (List Token) :=
  runWithin o r (Pipeline.depthFor tokens) id tokens

theorem passes_make (r : Registry) (passes : List BoundPass) :
    (r.make passes).1.passes (r.make passes).2 = passes.map (.bind (r.make passes).2) := by
  simp [make, Registry.passes]

@[simp] theorem pipeline_make (r : Registry) (passes : List BoundPass) :
    (r.make passes).1.pipeline (r.make passes).2 = ⟨passes.map (·.pass)⟩ := by
  rw [pipeline, passes_make, List.map_map]
  congr 1
  exact List.map_congr_left fun p _ => p.pass_bind _

end Registry

end Calculator
