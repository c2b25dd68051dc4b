import Calculator.Pass

/-! Reading numerals.  Digits that stand side by side are joined to one run, and then every run is
read as an integer. -/

namespace Calculator

/-- Puts a token on an output, the last token first; a digit joins the digits it meets. -/
def joinDigits (output : List Token) (t : Token) : List Token :=
  match output with
  | [] => [t]
  | last :: output =>
      match last.digits?, t.digits? with
      | some a, some b => .numeral (a ++ b) :: output
      | _, _ => t :: last :: output

def mergeDigits (tokens : List Token) : List Token := (tokens.foldl joinDigits []).reverse

/-- The number that a token reads as, or the token itself if it has no digits. -/
def readDigits (t : Token) : Except Failure Token :=
  match t.digits? with
  | none => .ok t
  | some digits =>
      match Decimal.readInteger 10 digits with
      | .ok i => .ok (.number (.int i))
      | .error f => .error (.unreadable f)

def convertNumerals (tokens : List Token) : Except Failure (List Token) := tokens.mapM readDigits

namespace Pass

def mergeDigits : Pass :=
  ofFunction "merge-digits" fun tokens => .ok (Calculator.mergeDigits tokens)

def convertNumerals : Pass := ofFunction "convert-numerals" Calculator.convertNumerals

end Pass

theorem readDigits_of_not_isDigit {t : Token} (h : t.isDigit = false) : readDigits t = .ok t := by
  simp only [Token.isDigit, Option.isSome_eq_false_iff, Option.isNone_iff_eq_none] at h
  simp [readDigits, h]

end Calculator
