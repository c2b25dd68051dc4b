import Calculator.Datum
import Calculator.Pass

/-! Access to an environment by keys of any kind.  A text is a key under its own name, a token under
the name that it stands for, and nothing else is a key.  An access that fails leaves the environment
as it was. -/

namespace Calculator.Environment

/-- The name that a key stands for. -/
def keyName : Datum → Except Failure Text.Points
  | .text name => .ok (Text.points name)
  | .brokenText name => .ok name
  | .token t => t.name.map Text.points
  | d => .error (.keyType d.className)

/-- The token that a datum is, as a value to be bound. -/
def boundValue : Datum → Except Failure Token
  | .token t => .ok t
  | d => .error (.valueType d.className)

/-- Binds a key.  The value is looked at before the key. -/
def setKey (key value : Datum) : Edit Unit := do
  let t ← Action.ofExcept (boundValue value)
  let name ← Action.ofExcept (keyName key)
  modify fun env => env.bind name t

def getName (name : Text.Points) : Edit Token := do
  let env ← get
  match env.lookup? name with
  | some t => pure t
  | none => throw (.unboundName name)

def getKey (key : Datum) : Edit Token := do
  let name ← Action.ofExcept (keyName key)
  getName name

def removeName (name : Text.Points) : Edit Unit := do
  let env ← get
  if env.contains name then set (env.erase name) else throw (.unboundName name)

def removeKey (key : Datum) : Edit Unit := do
  let name ← Action.ofExcept (keyName key)
  removeName name

/-- Whether a key is bound.  What is no key is not bound; only a token that cannot even be written
out is an error here too. -/
def hasKey (key : Datum) : Edit Bool := do
  let env ← get
  match keyName key with
  | .ok name => pure (env.contains name)
  | .error .unwritable => throw .unwritable
  | .error _ => pure false

/-- Takes the binding of a key out. -/
def popKey (key : Datum) : Edit Token := do
  let t ← getKey key
  removeKey key
  pure t

/-- The token that a key is bound to, or a datum that it is then bound to. -/
def getOrSetKey (key value : Datum) : Edit Datum := do
  try
    let t ← getKey key
    pure (.token t)
  catch
    | .unboundName _ => do
        setKey key value
        pure value
    | e => throw e

def popName (name : Text.Points) : Edit Token := do
  let t ← getName name
  removeName name
  pure t

/-- Takes all bindings out, the first one first. -/
def clear : Edit Unit := do
  let env ← get
  env.names.forM fun name => discard (popName name)

/-- An access to an environment. -/
inductive Access where
  | set (key value : Datum)
  | get (key : Datum)
  | remove (key : Datum)
  | has (key : Datum)
  | pop (key : Datum)
  | getOrSet (key value : Datum)
  | clear

/-- Carries an access out.  Its answer is null where there is nothing to tell. -/
def Access.perform : Access → Edit Datum
  | .set key value => do
      setKey key value
      pure .null
  | .get key => do
      let t ← getKey key
      pure (.token t)
  | .remove key => do
      removeKey key
      pure .null
  | .has key => do
      let b ← hasKey key
      pure (.bool b)
  | .pop key => do
      let t ← popKey key
      pure (.token t)
  | .getOrSet key value => getOrSetKey key value
  | .clear => do
      Environment.clear
      pure .null

/-- Carries out accesses one after the other, also after one that fails, and gives what each of them
comes to with the environment after the last. -/
def performAll : List Access → Environment → List (Except Failure Datum) × Environment
  | [], env => ([], env)
  | access :: accesses, env =>
      let (outcome, env) := access.perform.result env
      let (outcomes, env) := performAll accesses env
      (outcome :: outcomes, env)

theorem keyName_text (name : String) : keyName (.text name) = .ok (Text.points name) := rfl

theorem keyName_brokenText (name : Text.Points) : keyName (.brokenText name) = .ok name := rfl

theorem keyName_token (t : Token) : keyName (.token t) = t.name.map Text.points := rfl

end Calculator.Environment
