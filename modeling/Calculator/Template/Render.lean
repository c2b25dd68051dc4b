import Calculator.Template.Reading
import Calculator.Text.Quoted

/-! Filling in templates.  A key is looked up among the fields; a key that is not there stands for
an empty text.  Inside a section the value of the section itself is at hand under the key `.`, and
outside all of them that key stands for the fields themselves.  Templates that ask for others to be
included are filled in without them. -/

namespace Calculator.Template

inductive Value where
  | text (s : String)
  | count (n : Nat)
  /-- All the fields at once. -/
  | fields

abbrev Fields := List (String × Value)

/-- What fills templates in. -/
abbrev Renderer : Type := Text.Points → Fields → Except Fault String

/-- Empty texts and zero count as absent. -/
def Value.isPresent : Value → Bool
  | .text s => s ≠ ""
  | .count n => n ≠ 0
  | .fields => true

/-- How a value stands among others. -/
def Value.described : Value → String
  | .text s => Text.quoted s
  | .count n => toString n
  | .fields => "\x7b...\x7d"

def Fields.described (fields : Fields) : String :=
  "\x7b" ++ String.intercalate ", "
    (fields.map fun f => Text.quoted f.1 ++ ": " ++ f.2.described) ++ "\x7d"

def Value.show (fields : Fields) : Value → List Char
  | .text s => s.toList
  | .count n => (toString n).toList
  | .fields => fields.described.toList

/-- The value of a key.  The fields have no parts, so a key with a point in it has no value. -/
def lookUp (fields : Fields) (here : Value) (key : List Char) : Value :=
  if key = ['.'] then here
  else ((fields.find? fun f => f.1.toList = key).map (·.2)).getD (.text "")

mutual

/-- The text of a part, with the value of the innermost section around it. -/
def Part.fill (fields : Fields) (here : Value) : Part → List Char
  | .text s => s
  | .variable key => (lookUp fields here key).show fields
  | .block key parts =>
      let value := lookUp fields here key
      if value.isPresent then fillAll fields value parts else []
  | .inverse key parts =>
      if (lookUp fields here key).isPresent then [] else fillAll fields here parts

def fillAll (fields : Fields) (here : Value) : List Part → List Char
  | [] => []
  | part :: parts => part.fill fields here ++ fillAll fields here parts

end

/-- The renderer of this module.  Surrogates in a template are shown by their numbers. -/
def render : Renderer := fun template fields =>
  (read (Text.spelledOut template).toList).map fun parts =>
    String.ofList (fillAll fields .fields parts)

end Calculator.Template
