import Calculator.Number
import Calculator.Text.Letter

/-! Tokens are what an expression consists of while it is evaluated: characters of the source at
first, then runs of digits, numbers and keywords.  A character knows its offset in the source, which
serves to point at it and has no part in comparisons. -/

namespace Calculator

inductive Token where
  /-- A character of the source and its offset; a character that no source holds has none. -/
  | char (c : Char) (offset : Option Int)
  /-- A run of digits that has not been read as a number yet. -/
  | numeral (digits : String)
  | number (value : Number)
  /-- A keyword. -/
  | symbol (name : String)
  deriving DecidableEq

namespace Token

/-- Whether a token is the character `c`, at whatever offset. -/
def isChar (c : Char) : Token → Bool
  | .char d _ => d = c
  | _ => false

/-- Whether a token is the keyword `name`. -/
def isSymbol (name : String) : Token → Bool
  | .symbol s => s = name
  | _ => false

def isNumber : Token → Bool
  | .number _ => true
  | _ => false

/-- The digits that a token contributes to a numeral: an ASCII digit or a run of digits. -/
def digits? : Token → Option String
  | .char c _ => if Text.isAsciiDigit c then some (String.singleton c) else none
  | .numeral digits => some digits
  | _ => none

def isDigit (t : Token) : Bool := t.digits?.isSome

/-- The name that a token stands for: a letter or a keyword. -/
def name? : Token → Option String
  | .char c _ => if Text.isLetter c then some (String.singleton c) else none
  | .symbol name => some name
  | _ => none

def isName (t : Token) : Bool := t.name?.isSome

def offset? : Token → Option Int
  | .char _ offset => offset
  | _ => none

/-- Equality of tokens: offsets do not count, and numbers are compared by value. -/
def same : Token → Token → Bool
  | .char c _, .char d _ => c = d
  | .numeral s, .numeral t => s = t
  | .number m, .number n => m.same n
  | .symbol s, .symbol t => s = t
  | _, _ => false

/-- The source text that a token stands for. -/
def text : Token → String
  | .char c _ => String.singleton c
  | .numeral digits => digits
  | .number n => n.text
  | .symbol name => name

/-- A token with its kind, its text quoted unless it is a number. -/
def describe : Token → String
  | .char c _ => "Char(" ++ Text.quoted (String.singleton c) ++ ")"
  | .numeral digits => "Numeral(" ++ Text.quoted digits ++ ")"
  | .number n => "Number(" ++ n.text ++ ")"
  | .symbol name => "Symbol(" ++ Text.quoted name ++ ")"

/-- Whether a token's text may be written. -/
def isWritable : Token → Bool
  | .number n => n.isWritable
  | _ => true

def withoutOffset : Token → Token
  | .char c _ => .char c none
  | t => t

/-- The character token of a text, which must consist of one character. -/
def ofText? (text : String) (offset : Option Int) : Option Token :=
  match text.toList with
  | [c] => some (.char c offset)
  | _ => none

@[simp] theorem isChar_char (c d : Char) (p : Option Int) : isChar c (.char d p) = decide (d = c) :=
  rfl
@[simp] theorem isChar_number (c : Char) (n : Number) : isChar c (.number n) = false := rfl
@[simp] theorem isChar_numeral (c : Char) (s : String) : isChar c (.numeral s) = false := rfl
@[simp] theorem isChar_symbol (c : Char) (s : String) : isChar c (.symbol s) = false := rfl
@[simp] theorem isDigit_number (n : Number) : isDigit (.number n) = false := rfl
@[simp] theorem isDigit_numeral (s : String) : isDigit (.numeral s) = true := rfl
@[simp] theorem isDigit_symbol (s : String) : isDigit (.symbol s) = false := rfl
@[simp] theorem isName_number (n : Number) : isName (.number n) = false := rfl
@[simp] theorem isName_numeral (s : String) : isName (.numeral s) = false := rfl
@[simp] theorem isName_symbol (s : String) : isName (.symbol s) = true := rfl
@[simp] theorem isNumber_number (n : Number) : isNumber (.number n) = true := rfl

theorem isDigit_char (c : Char) (p : Option Int) : isDigit (.char c p) = Text.isAsciiDigit c := by
  simp only [isDigit, digits?]
  split <;> simp_all

theorem isName_char (c : Char) (p : Option Int) : isName (.char c p) = Text.isLetter c := by
  simp only [isName, name?]
  split <;> simp_all

/-- A token is the character `c` exactly when it is one at some offset. -/
theorem isChar_iff {c : Char} {t : Token} : t.isChar c = true ↔ ∃ p, t = .char c p := by
  cases t <;> simp

/-- Offsets are not compared. -/
theorem same_withoutOffset (s t : Token) : same s.withoutOffset t.withoutOffset = same s t := by
  cases s <;> cases t <;> rfl

theorem isName_eq_false_of_isDigit {t : Token} (h : t.isDigit = true) : t.isName = false := by
  cases t with
  | char c p =>
    simp only [isDigit_char, Text.isAsciiDigit, Bool.and_eq_true, decide_eq_true_eq] at h
    rw [isName_char]
    have h2 : c.toNat ≤ '9'.toNat := h.2
    exact Text.isLetter_eq_false_of_lt (Nat.lt_of_le_of_lt h2 (by decide))
  | numeral s => rfl
  | number n => simp at h
  | symbol s => simp at h

end Token

end Calculator
