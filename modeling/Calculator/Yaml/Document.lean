import Calculator.Yaml.Graph.Reading
import Calculator.Yaml.Lexeme.Reading
import Calculator.Yaml.Value.Building
import Calculator.Yaml.Value.Description

/-! Documents: texts that stand for one value. -/

namespace Calculator.Yaml

/-- How deep the maps of a document are open.  Settings lie no deeper. -/
def openDepth : Nat := 2

/-- Reads a document; an empty one is null. -/
def load (text : List Char) : Except Fault Datum := do
  match ← Graph.ofLexemes (← Lexemes.read text) with
  | none => pure .null
  | some (g, root) => do
      let (v, c) ← g.build root
      pure (c.toDatum openDepth v)

end Calculator.Yaml
