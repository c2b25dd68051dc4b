import Calculator.Action
import Calculator.Environment

/-! Passes turn one list of tokens into another.  Most of them look at the list alone and may change
the environment; a nested pass runs the pipeline that it belongs to on lists of its own making, such
as the groups between parentheses. -/

namespace Calculator

/-- What a pass may do to the environment besides giving a list back. -/
abbrev Edit (α : Type) : Type := Action Environment α

/-- What a nested pass does with its input: it ends with a list or a failure, or has a list run
through the pipeline and goes on with what comes out. -/
inductive Plan where
  | done (tokens : List Token)
  | fail (e : Failure)
  | run (tokens : List Token) (next : List Token → Plan)

/-- Carries a plan out, given the way to run the pipeline. -/
def Plan.carryOut {m : Type → Type} [Monad m] [MonadExceptOf Failure m]
    (inner : List Token → m (List Token)) : Plan → m (List Token)
  | .done tokens => pure tokens
  | .fail e => throw e
  | .run tokens next => do
      let result ← inner tokens
      (next result).carryOut inner

/-- How a pass works. -/
inductive Body where
  | edit (f : List Token → Edit (List Token))
  | nested (plan : List Token → Plan)

structure Pass where
  name : String
  /-- Whether the pass is reported to an observer. -/
  traceable : Bool := true
  body : Body

namespace Pass

/-- A pass that leaves the environment as it is. -/
def ofFunction (name : String) (f : List Token → Except Failure (List Token)) : Pass where
  name := name
  body := .edit fun tokens => Action.ofExcept (f tokens)

def isNested (p : Pass) : Bool :=
  match p.body with
  | .nested _ => true
  | .edit _ => false

def describe (p : Pass) : String := "<Pass " ++ p.name ++ ">"

/-- Runs a pass outside of a pipeline, where a nested pass has nothing to run. -/
def call (p : Pass) (tokens : List Token) : Edit (List Token) :=
  match p.body with
  | .edit f => f tokens
  | .nested _ => throw (.noPipeline p.name)

end Pass

@[simp] theorem Plan.carryOut_done {m : Type → Type} [Monad m] [MonadExceptOf Failure m]
    (inner : List Token → m (List Token)) (tokens : List Token) :
    (Plan.done tokens).carryOut inner = pure tokens := rfl

@[simp] theorem Plan.carryOut_fail {m : Type → Type} [Monad m] [MonadExceptOf Failure m]
    (inner : List Token → m (List Token)) (e : Failure) :
    (Plan.fail e).carryOut inner = throw e := rfl

@[simp] theorem Plan.carryOut_run {m : Type → Type} [Monad m] [MonadExceptOf Failure m]
    (inner : List Token → m (List Token)) (tokens : List Token) (next : List Token → Plan) :
    (Plan.run tokens next).carryOut inner =
      (do let result ← inner tokens; (next result).carryOut inner) := rfl

end Calculator
