import Calculator.Pipeline
import Calculator.Window

/-! Variables.  `set(x,3)` binds a name and stands for the token it binds it to.  Three passes at
the front of a pipeline make the keyword, carry the assignments out, and put bound tokens in the
place of names; since assignments come first, a name on the right of one still has its old meaning
there. -/

namespace Calculator

def setKeyword : String := "set"

/-- Makes keywords out of their letters. -/
def keywordWindow (_ : List Token) : Edit (List Token) := pure [.symbol setKeyword]

def keywordPattern : List Window.Place :=
  setKeyword.toList.map fun c => .literal (.char c none)

/-- `set ( name , value )`, with any tokens for the name and the value. -/
def assignmentPattern : List Window.Place :=
  [.literal (.symbol setKeyword), .literal (.char '(' none), .any, .literal (.char ',' none), .any,
    .literal (.char ')' none)]

/-- The token that a bound name stands for, and any other token itself. -/
def Environment.resolve (env : Environment) (t : Token) : Token :=
  match t.name? with
  | some name => (env.get? name).getD t
  | none => t

/-- Carries an assignment out.  The value is resolved before the name is bound. -/
def assign (name value : Token) : Edit (List Token) :=
  match name.name? with
  | none => do
      let text ← Action.ofExcept name.written
      throw (.at (.notAName text) name)
  | some key => do
      let env ← get
      let value := env.resolve value
      set (env.insert key value)
      pure [value]

/-- Carries out the assignment that a window holds. -/
def assignmentWindow : List Token → Edit (List Token)
  | [_, _, name, _, value, _] => assign name value
  | window => pure window

namespace Pass

def setWord : Pass where
  name := "set-word"
  body := .edit (Window.scanPattern keywordPattern keywordWindow)

def setVariable : Pass where
  name := "set-variable"
  body := .edit (Window.scanPattern assignmentPattern assignmentWindow)

def useVariable : Pass where
  name := "use-variable"
  body := .edit fun tokens => do
    let env ← get
    pure (tokens.map env.resolve)

end Pass

/-- The pipeline with assignments and variables before everything else. -/
def Pipeline.withVariables (l : Pipeline) : Pipeline :=
  ((l.insertFront .useVariable).insertFront .setVariable).insertFront .setWord

theorem Pipeline.passes_withVariables (l : Pipeline) :
    l.withVariables.passes = [.setWord, .setVariable, .useVariable] ++ l.passes := rfl

theorem Environment.resolve_of_not_isName {env : Environment} {t : Token}
    (h : t.isName = false) : env.resolve t = t := by
  simp only [Token.isName, Option.isSome_eq_false_iff, Option.isNone_iff_eq_none] at h
  simp [resolve, h]

theorem Environment.map_resolve_of_not_isName {env : Environment} {tokens : List Token}
    (h : ∀ t ∈ tokens, t.isName = false) : tokens.map env.resolve = tokens :=
  (List.map_congr_left fun t ht => resolve_of_not_isName (h t ht)).trans (List.map_id' tokens)

end Calculator
