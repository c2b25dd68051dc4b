/-! Powers with an exponent of either sign.  A number `m * b ^ e` is the quotient of
`m * power b e` and `power b (-e)`, one of the two powers being one. -/

namespace Calculator

/-- The power of a base, or one where the exponent is negative. -/
def power (base : Nat) (exponent : Int) : Nat := Nat.pow base exponent.toNat

theorem power_of_nonpos (base : Nat) {exponent : Int} (h : exponent ≤ 0) :
    power base exponent = 1 := by
  simp [power, Int.toNat_of_nonpos h]

theorem power_pos {base : Nat} (h : 0 < base) (exponent : Int) : 0 < power base exponent :=
  Nat.pow_pos h

end Calculator
