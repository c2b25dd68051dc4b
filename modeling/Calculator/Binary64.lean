import Calculator.Power

/-! Double precision numbers as exact values.  A finite one is `m * 2 ^ q` with `m < 2 ^ 53` and
`-1074 ≤ q`, and `ofRatio` finds the one nearest to a quotient of natural numbers. -/

namespace Calculator.Binary64

/-- What a number stands for. -/
inductive Shape where
  | nan
  | infinite (negative : Bool)
  | finite (negative : Bool) (mantissa : Nat) (exponent : Int)
  deriving DecidableEq, Repr

/-- The exact value of a number, read off its bits. -/
def shape (x : Float) : Shape :=
  let bits := x.toBits.toNat
  let negative := power 2 63 ≤ bits
  let biased : Nat := bits / power 2 52 % power 2 11
  let fraction : Nat := bits % power 2 52
  if biased = 2047 then
    if fraction = 0 then .infinite negative else .nan
  else if biased = 0 then .finite negative fraction (-1074)
  else .finite negative (power 2 52 + fraction) (biased - 1075)

/-- The whole number nearest to `num / den`; of two equally near ones, the even one. -/
def roundHalfEven (num den : Nat) : Nat :=
  let q := num / den
  let r := num % den
  if 2 * r < den then q else if den < 2 * r then q + 1 else q + q % 2

/-- The exponent of the highest power of two that is at most `num / den`. -/
def magnitude (num den : Nat) : Int :=
  let e : Int := num.log2 - den.log2
  if num * power 2 (-e) < den * power 2 e then e - 1 else e

/-- The bits, without the sign, of the number nearest to `num / den` among those without a largest
exponent.  Adding the mantissa to the exponent's field carries into it exactly when rounding has
reached the next power of two. -/
def nearestBits (num den : Nat) : Nat :=
  if num = 0 then 0
  else
    let q := max (magnitude num den - 52) (-1074)
    roundHalfEven (num * power 2 (-q)) (den * power 2 q) + (q + 1074).toNat * power 2 52

def infinityBits : Nat := 2047 * power 2 52

/-- The number with the given sign and the given bits of its absolute value. -/
def ofMagnitude (negative : Bool) (bits : Nat) : Float :=
  .ofBits (UInt64.ofNat (if negative then power 2 63 + bits else bits))

def infinity (negative : Bool) : Float := ofMagnitude negative infinityBits

def nan : Float := .ofBits 0x7ff8000000000000

/-- The number nearest to `num / den`, with the given sign, unless it is too large. -/
def ofRatio (negative : Bool) (num den : Nat) : Option Float :=
  let bits := nearestBits num den
  if bits < infinityBits then some (ofMagnitude negative bits) else none

/-- The number nearest to `num / den`, infinity where it is too large. -/
def ofRatioOrInfinity (negative : Bool) (num den : Nat) : Float :=
  (ofRatio negative num den).getD (infinity negative)

/-- The number nearest to a whole number, unless it is too large. -/
def ofInt? (i : Int) : Option Float := ofRatio (i < 0) i.natAbs 1

/-- Whether the value of `x` is the whole number `i`. -/
def equalsInt (x : Float) (i : Int) : Bool :=
  match shape x with
  | .finite negative m q =>
      let signed : Int := if negative then -m else m
      signed * power 2 q = i * power 2 (-q)
  | _ => false

/-- Rounding is off by at most one half. -/
theorem roundHalfEven_near (num : Nat) {den : Nat} (h : 0 < den) :
    2 * num ≤ (2 * roundHalfEven num den + 1) * den ∧
      2 * (roundHalfEven num den * den) ≤ 2 * num + den := by
  have hd := Nat.div_add_mod num den
  have hr := Nat.mod_lt num h
  simp only [roundHalfEven]
  generalize num / den = q at *
  generalize num % den = r at *
  have hm : q * den = den * q := Nat.mul_comm q den
  split
  · constructor <;> simp only [Nat.add_mul, Nat.mul_assoc, Nat.one_mul, hm] <;> omega
  · split
    · constructor <;> simp only [Nat.add_mul, Nat.mul_assoc, Nat.one_mul, hm] <;> omega
    · rcases Nat.mod_two_eq_zero_or_one q with h2 | h2 <;> rw [h2] <;>
        constructor <;> simp only [Nat.add_mul, Nat.mul_assoc, Nat.one_mul, hm] <;> omega

theorem ofInt?_eq_ofRatio (i : Int) : ofInt? i = ofRatio (i < 0) i.natAbs 1 := rfl

end Calculator.Binary64
