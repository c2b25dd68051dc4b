import Calculator.Text.CodePoint
import Calculator.Text.Visible

/-! Quoted text.  The mark is the single quote, or the double one where the text has single quotes
and no double ones.  A backslash stands before the mark and before itself; tab, newline and carriage
return have letters, and every other character that is not visible is written by its code point. -/

namespace Calculator.Text

/-- The last `width` hexadecimal digits of `n`, in lower case. -/
def hexDigits : Nat → Nat → List Char
  | 0, _ => []
  | width + 1, n => hexDigits width (n / 16) ++ [Nat.digitChar (n % 16)]

def quoteMark (s : List Char) : Char :=
  if s.contains '\x27' && !s.contains '\x22' then '\x22' else '\x27'

/-- The code point of `c` behind `x`, `u` or `U`, in two, four or eight digits. -/
def codeEscape (c : Char) : List Char :=
  if c.toNat < 0x100 then '\\' :: 'x' :: hexDigits 2 c.toNat
  else if c.toNat < 0x10000 then '\\' :: 'u' :: hexDigits 4 c.toNat
  else '\\' :: 'U' :: hexDigits 8 c.toNat

/-- How `c` is written between two marks. -/
def escaped (mark c : Char) : List Char :=
  if c = mark ∨ c = '\\' then ['\\', c]
  else if c = '\t' then ['\\', 't']
  else if c = '\n' then ['\\', 'n']
  else if c = '\r' then ['\\', 'r']
  else if isVisible c then [c]
  else codeEscape c

def quoted (s : String) : String :=
  let mark := quoteMark s.toList
  String.ofList (mark :: s.toList.flatMap (escaped mark) ++ [mark])

def escapedPoint (mark : Char) : CodePoint → List Char
  | .char c => escaped mark c
  | .surrogate n => '\\' :: 'u' :: hexDigits 4 n

/-- The quoted form of a text that may hold surrogates. -/
def quotedPoints (s : Points) : String :=
  let mark := quoteMark (s.filterMap CodePoint.char?)
  String.ofList (mark :: s.flatMap (escapedPoint mark) ++ [mark])

/-- A text in which surrogates are written by their numbers. -/
def spelledOut (s : Points) : String :=
  String.ofList (s.flatMap fun p =>
    match p with
    | .char c => [c]
    | .surrogate _ => escapedPoint '\'' p)

/-- How a byte is written between two marks: as its ASCII character, or by its value. -/
def escapedByte (mark : Char) (b : UInt8) : List Char :=
  if b.toNat < 0x7f then escaped mark (Char.ofNat b.toNat)
  else '\\' :: 'x' :: hexDigits 2 b.toNat

def quotedBytes (bytes : List UInt8) : String :=
  let mark := quoteMark (bytes.map fun b => Char.ofNat b.toNat)
  String.ofList ('b' :: mark :: bytes.flatMap (escapedByte mark) ++ [mark])

theorem length_hexDigits (width n : Nat) : (hexDigits width n).length = width := by
  induction width generalizing n with
  | zero => rfl
  | succ width ih => simp [hexDigits, ih]

/-- A text without surrogates has one quoted form. -/
theorem quotedPoints_codePoints (s : List Char) :
    quotedPoints (codePoints s) = quoted (String.ofList s) := by
  have h : (codePoints s).filterMap CodePoint.char? = s := by
    simp [codePoints, List.filterMap_map, Function.comp_def, CodePoint.char?]
  have h' (mark : Char) :
      (codePoints s).flatMap (escapedPoint mark) = s.flatMap (escaped mark) := by
    simp [codePoints, List.flatMap_map, escapedPoint]
  simp [quotedPoints, quoted, h, h']

theorem escaped_of_isVisible {mark c : Char} (h : isVisible c = true) (hm : c ≠ mark)
    (hb : c ≠ '\\') : escaped mark c = [c] := by
  have h9 : c ≠ '\t' := by rintro rfl; simp [isVisible_eq_false_of_lt] at h
  have h10 : c ≠ '\n' := by rintro rfl; simp [isVisible_eq_false_of_lt] at h
  have h13 : c ≠ '\r' := by rintro rfl; simp [isVisible_eq_false_of_lt] at h
  simp [escaped, hm, hb, h9, h10, h13, h]

end Calculator.Text
