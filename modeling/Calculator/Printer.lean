import Calculator.Datum

/-! Printing.  Tokens are printed as the source text that they stand for, sequences with a separator
between their items, and everything that has no source text is written out in full. -/

namespace Calculator

/-- The separator that stands between the items of a sequence. -/
structure Printer where
  separator : String := " "

namespace Printer

def tokensText (p : Printer) (tokens : List Token) : String :=
  String.intercalate p.separator (tokens.map Token.text)

def tokens (p : Printer) (tokens : List Token) : Except Failure String :=
  if tokens.all Token.isWritable then .ok (p.tokensText tokens) else .error .unwritable

/-- The bindings of an environment; in their names surrogates are written by their numbers. -/
def environmentText (env : Environment) : String :=
  let bindings := env.bindings.map fun b => Text.spelledOut b.1 ++ ": " ++ b.2.text
  "\x7b" ++ String.intercalate ", " bindings ++ "\x7d"

mutual

def textOf (p : Printer) : Datum → String
  | .null => "none"
  | .token t => t.text
  | .environment env => environmentText env
  | .wildcard => "_"
  | .list items => String.intercalate p.separator (textOfAll p items)
  | .tuple items => String.intercalate p.separator (textOfAll p items)
  | .bytes b => String.intercalate p.separator (b.map fun n => toString n.toNat)
  | d => d.describe

def textOfAll (p : Printer) : List Datum → List String
  | [] => []
  | d :: rest => p.textOf d :: textOfAll p rest

end

mutual

def isPrintable : Datum → Bool
  | .environment env => env.bindings.all fun b => b.2.isWritable
  | .list items => allPrintable items
  | .tuple items => allPrintable items
  | d => d.isWritable

def allPrintable : List Datum → Bool
  | [] => true
  | d :: rest => isPrintable d && allPrintable rest

end

def print (p : Printer) (d : Datum) : Except Failure String :=
  if isPrintable d then .ok (p.textOf d) else .error .unwritable

end Printer

end Calculator
