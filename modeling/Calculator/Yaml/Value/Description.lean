import Calculator.Yaml.Value

/-! Values of a document as data.  A value is written out in full but for the collections that it
lies in, which are only hinted at.  A datum has maps open down to some depth; other collections are
in it as outlines. -/

namespace Calculator.Yaml

namespace Collections

/-- How a collection is hinted at inside itself. -/
def hint : CollectionKind → String
  | .list | .pairs => "[...]"
  | .map => "\x7b...\x7d"
  | .set => "set(...)"

def inBraces (texts : List String) : String :=
  "\x7b" ++ String.intercalate ", " texts ++ "\x7d"

def inBrackets (texts : List String) : String := "[" ++ String.intercalate ", " texts ++ "]"

/-- A value written out inside some collections.  Each of these lies in those behind it, so there
are no more of them than collections. -/
def describe (c : Collections) : Nat → List NodeId → Value → Except Failure String
  | _, _, .leaf d _ => d.described
  | 0, _, .collection n => .ok (hint (c.filling n).kind)
  | fuel + 1, around, .collection n =>
      let filling := c.filling n
      if around.contains n then .ok (hint filling.kind)
      else
        let all (items : List Value) : Except Failure (List String) :=
          items.mapM (describe c fuel (n :: around))
        match filling with
        | .list items => inBrackets <$> all items
        | .set items => do
            let texts ← all items
            pure (if texts = [] then "set()" else inBraces texts)
        | .map entries => do
            let texts ← entries.mapM fun e => do
              let key ← describe c fuel (n :: around) e.1
              return key ++ ": " ++ (← describe c fuel (n :: around) e.2)
            pure (inBraces texts)
        | .pairs entries => do
            let texts ← entries.mapM fun e => do
              let first ← describe c fuel (n :: around) e.1
              return "(" ++ first ++ ", " ++ (← describe c fuel (n :: around) e.2) ++ ")"
            pure (inBrackets texts)

def outline (c : Collections) (n : NodeId) : Outline where
  typeName := (c.filling n).kind.typeName
  isPresent := !(c.filling n).isEmpty
  described := Thunk.mk fun _ => c.describe (c.size + 1) [] (.collection n)

/-- The datum of a value, with maps open down to `depth`. -/
def toDatum (c : Collections) : Nat → Value → Datum
  | _, .leaf d _ => d
  | 0, .collection n => .outline (c.outline n)
  | depth + 1, .collection n =>
      match c.filling n with
      | .map entries => .map (entries.map fun e => (toDatum c depth e.1, toDatum c depth e.2))
      | _ => .outline (c.outline n)

end Collections

end Calculator.Yaml
