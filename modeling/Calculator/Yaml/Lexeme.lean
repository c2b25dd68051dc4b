import Calculator.Failure
import Calculator.Text.CodePoint

/-! Lexemes of a document.  Where a collection starts or ends by indentation there is a lexeme for
it. -/

namespace Calculator.Yaml

/-- A tag as it is written: behind a handle, or in full. -/
structure WrittenTag where
  handle : Option (List Char)
  suffix : List Char
  deriving DecidableEq, Repr

inductive Lexeme where
  | versionDirective (major : Nat)
  | tagDirective (handle expansion : List Char)
  | otherDirective
  | documentStart
  | documentEnd
  | blockSequenceStart
  | blockMappingStart
  | blockEnd
  | flowSequenceStart
  | flowSequenceEnd
  | flowMappingStart
  | flowMappingEnd
  | flowEntry
  | blockEntry
  | key
  | value
  | alias (name : List Char)
  | anchor (name : List Char)
  | tag (t : WrittenTag)
  | scalar (plain : Bool) (text : List Text.CodePoint)
  deriving DecidableEq, Repr

/-- The lexemes of a text, up to its end or up to the first one that cannot be had. -/
structure Lexemes where
  list : List Lexeme
  /-- What happens to those who ask for more than there is. -/
  failure : Option Failure := none

end Calculator.Yaml
