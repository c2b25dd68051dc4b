import Calculator.Text.Ranges

/-! Decimal digits.  The characters of the category Nd come in runs of ten, one for each script that
has digits of its own, and the runs start at the zeros listed here. -/

namespace Calculator.Text

/-- The code points of the zeros of Unicode 14, in ascending order. -/
def digitZeros : List Nat :=
  [48, 1632, 1776, 1984, 2406, 2534, 2662, 2790, 2918, 3046, 3174, 3302, 3430, 3558, 3664, 3792,
   3872, 4160, 4240, 6112, 6160, 6470, 6608, 6784, 6800, 6992, 7088, 7232, 7248, 42528, 43216,
   43264, 43472, 43504, 43600, 44016, 65296, 66720, 68912, 69734, 69872, 69942, 70096, 70384,
   70736, 70864, 71248, 71360, 71472, 71904, 72016, 72784, 73040, 73120, 92768, 92864, 93008,
   120782, 120792, 120802, 120812, 120822, 123200, 123632, 125264, 130032]

/-- The value of the digit `n` in the first run that contains it. -/
def digitIn : List Nat → Nat → Option Nat
  | [], _ => none
  | start :: rest, n =>
      if n < start then none else if n < start + 10 then some (n - start) else digitIn rest n

/-- The value of a decimal digit of any script. -/
def digitValue? (c : Char) : Option Nat := digitIn digitZeros c.toNat

def isAsciiDigit (c : Char) : Bool := '0' ≤ c && c ≤ '9'

theorem digitIn_lt {zeros : List Nat} {n d : Nat} (h : digitIn zeros n = some d) : d < 10 := by
  induction zeros with
  | nil => simp [digitIn] at h
  | cons start rest ih =>
    simp only [digitIn] at h
    split at h
    · simp at h
    · split at h
      · simp only [Option.some.injEq] at h
        omega
      · exact ih h

theorem digitValue?_ascii {c : Char} (h : 48 ≤ c.toNat ∧ c.toNat ≤ 57) :
    digitValue? c = some (c.toNat - 48) := by
  simp only [digitValue?, digitZeros, digitIn]
  rw [if_neg (by omega), if_pos (by omega)]

end Calculator.Text
