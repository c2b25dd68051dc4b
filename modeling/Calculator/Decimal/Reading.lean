import Calculator.Binary64
import Calculator.Text.Blank
import Calculator.Text.Digit
import Calculator.Text.Quoted

/-! Reading numbers.  Digits of any script count as the ASCII digits of the same value, blanks
around a number are skipped, and single underscores may stand between digits. -/

namespace Calculator.Decimal

/-- Why a text is not read as a number. -/
inductive ReadFault where
  | notAnInteger (base : Nat) (text : List Text.CodePoint)
  | tooManyDigits (count : Nat)
  | notAFloat (text : List Text.CodePoint)
  deriving DecidableEq, Repr

/-- The most decimal digits that an integer is read from or written with. -/
def digitLimit : Nat := 4300

/-- What is said about a text that is not a number.  An unreadable integer is quoted up to its two
hundredth character. -/
def ReadFault.message : ReadFault → String
  | .notAnInteger base text =>
      "invalid literal for int() with base " ++ toString base ++ ": "
        ++ String.ofList ((Text.quotedPoints text).toList.take 200)
  | .tooManyDigits count =>
      "Exceeds the limit (" ++ toString digitLimit
        ++ " digits) for integer string conversion: value has " ++ toString count
        ++ " digits; use sys.set_int_max_str_digits() to increase the limit"
  | .notAFloat text => "could not convert string to float: " ++ Text.quotedPoints text

/-- The ASCII character that a number's text is read with: blanks and digits of any script stand for
the space and the ASCII digits, and nothing else outside ASCII can be part of a number. -/
def toAscii (c : Char) : Char :=
  if c.toNat < 127 then c
  else if Text.isBlank c then ' '
  else match Text.digitValue? c with
    | some d => Nat.digitChar d
    | none => '?'

/-- The ASCII characters that a number's text is read with. -/
def asciiText (s : List Text.CodePoint) : List Char :=
  s.map fun p =>
    match p with
    | .char c => toAscii c
    | .surrogate _ => '?'

@[simp] theorem asciiText_codePoints (s : List Char) :
    asciiText (Text.codePoints s) = s.map toAscii := by
  simp [asciiText, Text.codePoints]

/-- Whether a number's text may have `c` at its ends. -/
def isSpace (c : Char) : Bool := c = ' ' || (9 ≤ c.toNat && c.toNat ≤ 13)

/-- The value of `c` as a digit in a base up to sixteen. -/
def digitOf? (base : Nat) (c : Char) : Option Nat :=
  let n :=
    if '0' ≤ c ∧ c ≤ '9' then c.toNat - 48
    else if 'a' ≤ c ∧ c ≤ 'f' then c.toNat - 87
    else if 'A' ≤ c ∧ c ≤ 'F' then c.toNat - 55
    else base
  if n < base then some n else none

/-- A sign at the front of a text, and what follows it. -/
def takeSign : List Char → Bool × List Char
  | '-' :: rest => (true, rest)
  | '+' :: rest => (false, rest)
  | s => (false, s)

/-- The letter that marks a base at the front of a number. -/
def baseMark : Nat → Option Char
  | 2 => some 'b'
  | 8 => some 'o'
  | 16 => some 'x'
  | _ => none

/-- The text behind the mark of its base, if it has one; an underscore may follow the mark. -/
def skipBaseMark (base : Nat) (s : List Char) : List Char :=
  match s, baseMark base with
  | '0' :: c :: rest, some mark =>
      if c = mark ∨ c = mark.toUpper then
        match rest with
        | '_' :: more => more
        | _ => rest
      else s
  | _, _ => s

/-- Whether every underscore of a run of digits and underscores stands between two digits. -/
def wellSpaced : List Char → Bool
  | [] => true
  | '_' :: _ => false
  | _ :: '_' :: rest => !rest.isEmpty && wellSpaced rest
  | _ :: rest => wellSpaced rest

def digitsValue (base : Nat) (digits : List Nat) : Nat :=
  digits.foldl (fun n d => n * base + d) 0

/-- Reads an integer of base 2, 8, 10 or 16 from code points.  Only decimal digits are limited in
number. -/
def readIntegerFrom (base : Nat) (text : List Text.CodePoint) : Except ReadFault Int :=
  let s := (asciiText text).dropWhile isSpace
  let (negative, s) := takeSign s
  let s := skipBaseMark base s
  let isPart := fun c => (digitOf? base c).isSome || c = '_'
  let run := s.takeWhile isPart
  let digits := run.filterMap (digitOf? base)
  if !wellSpaced run then .error (.notAnInteger base text)
  else if base = 10 ∧ digitLimit < digits.length then .error (.tooManyDigits digits.length)
  else if digits = [] ∨ !(s.dropWhile isPart).all isSpace then .error (.notAnInteger base text)
  else
    let n := digitsValue base digits
    .ok (if negative then -n else n)

def readInteger (base : Nat) (text : String) : Except ReadFault Int :=
  readIntegerFrom base (Text.codePoints text.toList)

/-- The text without its underscores, each of which must stand between two digits. -/
def dropUnderscores : List Char → Option (List Char)
  | [] => some []
  | '_' :: _ => none
  | c :: '_' :: d :: rest =>
      if c.isDigit && d.isDigit then (dropUnderscores (d :: rest)).map (c :: ·) else none
  | c :: rest => (dropUnderscores rest).map (c :: ·)

/-- An exponent: `e`, a sign that may be missing, and digits up to the end. -/
def readExponent : List Char → Option Int
  | [] => some 0
  | e :: rest =>
      if e = 'e' ∨ e = 'E' then
        let (negative, digits) := takeSign rest
        if digits ≠ [] ∧ digits.all Char.isDigit then
          let n := digitsValue 10 (digits.filterMap (digitOf? 10))
          some (if negative then -n else n)
        else none
      else none

/-- The number nearest to `n * 10 ^ exponent`.  Far outside the range it is zero or infinity, which
is settled without computing the power: `10` lies above `2 ^ 3`. -/
def nearestFloat (negative : Bool) (n : Nat) (exponent : Int) : Float :=
  let log : Int := n.log2
  if n = 0 ∨ exponent < 0 ∧ log + 3 * exponent < -1100 then Binary64.ofMagnitude negative 0
  else if 400 < exponent then Binary64.infinity negative
  else
    Binary64.ofRatioOrInfinity negative (n * power 10 exponent) (power 10 (-exponent))

/-- Reads an unsigned number: `inf`, `infinity` or `nan` in either case, or digits with at most one
point and an exponent that may be missing. -/
def readUnsigned (negative : Bool) (s : List Char) : Option Float :=
  let word := String.ofList (s.map Char.toLower)
  if word = "inf" ∨ word = "infinity" then some (Binary64.infinity negative)
  else if word = "nan" then some Binary64.nan
  else
    let whole := s.takeWhile Char.isDigit
    let s := s.dropWhile Char.isDigit
    let (fraction, s) :=
      match s with
      | '.' :: rest => (rest.takeWhile Char.isDigit, rest.dropWhile Char.isDigit)
      | _ => ([], s)
    if whole ++ fraction = [] then none
    else
      (readExponent s).map fun e =>
        nearestFloat negative (digitsValue 10 ((whole ++ fraction).filterMap (digitOf? 10)))
          (e - fraction.length)

/-- Reads a double precision number from code points. -/
def readFloatFrom (text : List Text.CodePoint) : Except ReadFault Float :=
  let s := (asciiText text).dropWhile isSpace
  let s := (s.reverse.dropWhile isSpace).reverse
  let signed := fun s => let (negative, s) := takeSign s; readUnsigned negative s
  match (dropUnderscores s).bind signed with
  | some x => .ok x
  | none => .error (.notAFloat text)

theorem digitsValue_append (base : Nat) (ds : List Nat) (d : Nat) :
    digitsValue base (ds ++ [d]) = digitsValue base ds * base + d := by
  simp [digitsValue]

end Calculator.Decimal
