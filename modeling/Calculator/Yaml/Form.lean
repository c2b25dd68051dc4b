import Calculator.Yaml.Cursor
import Calculator.Yaml.Graph
import Calculator.Yaml.Timestamp

/-! Forms of plain text.  Plain text counts as a truth value, a number, a date or nothing at all
when it has the form of one, and as a text otherwise.  A newline at its end does not count, but a
newline alone is a text. -/

namespace Calculator.Yaml

def isBoolWord (s : String) : Bool :=
  ["yes", "Yes", "YES", "no", "No", "NO", "true", "True", "TRUE", "false", "False", "FALSE", "on",
    "On", "ON", "off", "Off", "OFF"].contains s

def isNullWord (s : String) : Bool := ["~", "null", "Null", "NULL"].contains s

/-- The signs of the language that are no text when they stand alone. -/
def isLoneSign (s : String) : Bool := ["!", "&", "*"].contains s

/-- Whether a text is a run of some characters, at least one of them. -/
def isRunOf (p : Char → Bool) (s : List Char) : Bool := !s.isEmpty && s.all p

def isDigitOrLine (c : Char) : Bool := c.isDigit || c = '_'

def unsigned : List Char → List Char
  | '-' :: rest => rest
  | '+' :: rest => rest
  | s => s

/-- Whether a text is a number below sixty, of one digit or two. -/
def isSixtieth : List Char → Bool
  | [c] => c.isDigit
  | [c, d] => '0' ≤ c && c ≤ '5' && d.isDigit
  | _ => false

/-- The pieces of a text between the colons. -/
def colonParts (s : List Char) : List (List Char) := s.splitOn ':'

/-- Whether a text is an integer: binary, octal, decimal, hexadecimal or of base sixty. -/
def isIntegerForm (s : List Char) : Bool :=
  match unsigned s with
  | '0' :: 'b' :: rest => isRunOf (fun c => c = '0' || c = '1' || c = '_') rest
  | '0' :: 'x' :: rest => isRunOf (fun c => isHexDigit c || c = '_') rest
  | ['0'] => true
  | '0' :: rest => isRunOf (fun c => ('0' ≤ c && c ≤ '7') || c = '_') rest
  | c :: rest =>
      match colonParts (c :: rest) with
      | first :: others =>
          c.isDigit && first.all isDigitOrLine && others.all isSixtieth
      | [] => false
  | [] => false

/-- Whether a text is an exponent with its sign, or nothing. -/
def isExponentForm : List Char → Bool
  | [] => true
  | e :: sign :: rest =>
      (e = 'e' || e = 'E') && (sign = '-' || sign = '+') && isRunOf Char.isDigit rest
  | _ => false

/-- Whether a text starts with digits and a point, and ends with an exponent or not. -/
def isPointForm (s : List Char) : Bool :=
  match s.dropWhile isDigitOrLine with
  | '.' :: rest =>
      s.head?.any Char.isDigit && isExponentForm (rest.dropWhile isDigitOrLine)
  | _ => false

/-- Whether a text is a number of base sixty with a point. -/
def isSixtyForm (s : List Char) : Bool :=
  match colonParts s with
  | first :: second :: others =>
      let parts := second :: others
      let last := parts.getLast?.getD []
      first.head?.any Char.isDigit && first.all isDigitOrLine
        && parts.dropLast.all isSixtieth
        && last.contains '.' && isSixtieth (last.takeWhile (· ≠ '.'))
        && ((last.dropWhile (· ≠ '.')).drop 1).all isDigitOrLine
  | _ => false

/-- Whether a text is a number with a point, an infinity, or not a number. -/
def isFloatForm (s : List Char) : Bool :=
  let body := unsigned s
  isPointForm body || isSixtyForm body
    || [".inf", ".Inf", ".INF"].contains (String.ofList body)
    || [".nan", ".NaN", ".NAN"].contains (String.ofList s)
    || (match s with
        | '.' :: d :: rest => d.isDigit && isExponentForm (rest.dropWhile isDigitOrLine)
        | _ => false)

/-- The name of the tag that plain text has by its form. -/
def formOf (text : List Char) : String :=
  let s := withoutLastNewline text
  let word := String.ofList s
  if isBoolWord word then "bool"
  else if isFloatForm s then "float"
  else if isIntegerForm s then "int"
  else if word = "<<" then "merge"
  else if text = [] || isNullWord word then "null"
  else if isStamp s then "timestamp"
  else if word = "=" then "value"
  else if isLoneSign word then "yaml"
  else "str"

/-- The tag of plain text.  Surrogates occur in no form. -/
def plainTag (text : List Text.CodePoint) : String :=
  standardTag ((Text.characters? text).elim "str" formOf)

end Calculator.Yaml
