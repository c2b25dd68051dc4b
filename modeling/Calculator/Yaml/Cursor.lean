import Calculator.Failure

/-! A place in a document: the text that is still to be read, and the line and column it starts at.
-/

namespace Calculator.Yaml

/-- Why a text is no document: it breaks the rules of the language, or a value in it cannot be
built. -/
inductive Fault where
  | invalid
  | value (f : Failure)
  deriving DecidableEq

/-- Whether a line ends at `c`. -/
def isBreak (c : Char) : Bool :=
  c = '\n' || c = '\r' || c = '\x85' || c = '\u2028' || c = '\u2029'

/-- Whether a character, or the end of the text, ends a line. -/
def endsLine : Option Char → Bool
  | none => true
  | some c => isBreak c

/-- Whether a character, or the end of the text, separates words. -/
def endsWord : Option Char → Bool
  | none => true
  | some c => c = ' ' || c = '\t' || isBreak c

/-- Whether a character, or the end of the text, is a space or ends a line. -/
def endsToken : Option Char → Bool
  | none => true
  | some c => c = ' ' || isBreak c

structure Cursor where
  rest : List Char
  /-- The number of characters of the whole text, which bounds what can be read one by one. -/
  size : Nat
  index : Nat := 0
  line : Nat := 0
  column : Nat := 0

namespace Cursor

def start (text : List Char) : Cursor := { rest := text, size := text.length }

/-- The character `k` places ahead. -/
def ahead (c : Cursor) (k : Nat) : Option Char := c.rest[k]?

def next (c : Cursor) : Option Char := c.rest.head?

/-- Moves on by one character.  A byte order mark takes no column. -/
def step (c : Cursor) : Cursor :=
  match c.rest with
  | [] => c
  | ch :: rest =>
      if isBreak ch then { c with rest, index := c.index + 1, line := c.line + 1, column := 0 }
      else
        { c with
          rest, index := c.index + 1, column := if ch = '\ufeff' then c.column else c.column + 1 }

def skip (c : Cursor) : Nat → Cursor
  | 0 => c
  | n + 1 => c.step.skip n

/-- The characters up to the first one that fails a test, and the place behind them. -/
def takeWhile (c : Cursor) (p : Char → Bool) : List Char × Cursor :=
  let taken := c.rest.takeWhile p
  (taken, c.skip taken.length)

def skipWhile (c : Cursor) (p : Char → Bool) : Cursor := (c.takeWhile p).2

def skipSpaces (c : Cursor) : Cursor := c.skipWhile (· = ' ')

def skipComment (c : Cursor) : Cursor :=
  if c.next = some '#' then c.skipWhile fun ch => !isBreak ch else c

/-- Reads a line end.  All of them count as newlines but the two separators. -/
def lineBreak? (c : Cursor) : Option (Char × Cursor) :=
  match c.next with
  | none => none
  | some ch =>
      if ch = '\u2028' ∨ ch = '\u2029' then some (ch, c.step)
      else if isBreak ch then some ('\n', c.step)
      else none

/-- Whether three marks that delimit documents stand here. -/
def isMark (c : Cursor) (mark : Char) : Bool :=
  c.rest.take 3 = [mark, mark, mark] && endsWord (c.ahead 3)

/-- Whether a document starts or ends here. -/
def isSeparator (c : Cursor) : Bool := c.isMark '-' || c.isMark '.'

/-- Skips spaces and a comment up to the end of the line, which must come next. -/
def finishLine (c : Cursor) : Except Fault Cursor :=
  let c := c.skipSpaces.skipComment
  if endsLine c.next then .ok ((c.lineBreak?.map (·.2)).getD c) else .error .invalid

end Cursor

def isWordChar (c : Char) : Bool :=
  ('0' ≤ c && c ≤ '9') || ('A' ≤ c && c ≤ 'Z') || ('a' ≤ c && c ≤ 'z') || c = '-' || c = '_'

def isHexDigit (c : Char) : Bool :=
  ('0' ≤ c && c ≤ '9') || ('A' ≤ c && c ≤ 'F') || ('a' ≤ c && c ≤ 'f')

def hexValue (digits : List Char) : Nat :=
  Decimal.digitsValue 16 (digits.filterMap (Decimal.digitOf? 16))

/-- Whether a document may contain a character. -/
def isPermitted (c : Char) : Bool :=
  let n := c.toNat
  n = 9 || n = 10 || n = 13 || (0x20 ≤ n && n ≤ 0x7e) || n = 0x85 || (0xa0 ≤ n && n ≤ 0xd7ff)
    || (0xe000 ≤ n && n ≤ 0xfffd) || 0x10000 ≤ n

end Calculator.Yaml
