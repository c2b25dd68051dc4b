import Calculator.Binary64

/-! The shortest decimal that reads back as a given double precision number.  The decimals that read
back form an interval around the number, whose ends belong to it when the mantissa is even.  For one
digit, two digits, and so on, the two neighbours of the number on the grid of decimals of that
length are tried; if any decimal of that length lies in the interval, one of the two does. -/

namespace Calculator.Decimal

/-- The decimal `digits * 10 ^ exponent`. -/
structure Scaled where
  digits : Nat
  exponent : Int
  deriving DecidableEq, Repr

/-- The number of decimal digits of `n`; zero has none. -/
def digitCount (n : Nat) : Nat :=
  if n = 0 then 0 else digitCount (n / 10) + 1
termination_by n
decreasing_by omega

/-- A positive number `value / scale` and the ends of the interval that rounds to it, over the same
denominator. -/
structure Interval where
  value : Nat
  low : Nat
  high : Nat
  scale : Nat
  closed : Bool

/-- The interval of `m * 2 ^ q`.  Below a power of two the numbers lie twice as dense. -/
def Interval.of (m : Nat) (q : Int) : Interval :=
  let up := power 2 (q - 2)
  let below := if m = power 2 52 ∧ -1074 < q then 1 else 2
  { value := 4 * m * up
    low := (4 * m - below) * up
    high := (4 * m + 2) * up
    scale := power 2 (2 - q)
    closed := m % 2 = 0 }

/-- Whether `candidate * 10 ^ exponent` lies in the interval. -/
def Interval.contains (i : Interval) (d : Scaled) : Bool :=
  let point := d.digits * power 10 d.exponent * i.scale
  let down := power 10 (-d.exponent)
  if i.closed then i.low * down ≤ point && point ≤ i.high * down
  else i.low * down < point && point < i.high * down

/-- The exponent `k` with `10 ^ (k - 1) ≤ value < 10 ^ k`.  No positive number is below
`10 ^ (-324)`, so its first 400 decimal places hold a digit that is not zero. -/
def Interval.decimalExponent (i : Interval) : Int :=
  (digitCount (i.value * power 10 400 / i.scale) : Int) - 400

/-- The nearest decimal of `length` digits in the interval; of two equally near ones, the even
one. -/
def Interval.nearest? (i : Interval) (length : Nat) : Option Scaled :=
  let exponent := i.decimalExponent - length
  let unit := power 10 exponent * i.scale
  let value := i.value * power 10 (-exponent)
  let below : Scaled := ⟨value / unit, exponent⟩
  let above : Scaled := ⟨value / unit + 1, exponent⟩
  match i.contains below, i.contains above with
  | true, true =>
      let rest := 2 * (value % unit)
      if rest < unit then some below
      else if unit < rest then some above
      else if below.digits % 2 = 0 then some below else some above
  | true, false => some below
  | false, true => some above
  | false, false => none

/-- The decimal without the zeros at the end of its digits. -/
def Scaled.trim (d : Scaled) : Scaled :=
  if d.digits % 10 = 0 ∧ d.digits ≠ 0 then Scaled.trim ⟨d.digits / 10, d.exponent + 1⟩ else d
termination_by d.digits
decreasing_by simp_all; omega

/-- The shortest decimal that reads back as `m * 2 ^ q`, for `0 < m`. -/
def shortest (m : Nat) (q : Int) : Scaled :=
  let i := Interval.of m q
  (((List.range' 1 17).findSome? i.nearest?).getD ⟨0, 0⟩).trim

/-- A decimal that `nearest?` finds lies in the interval. -/
theorem Interval.contains_of_nearest? {i : Interval} {length : Nat} {d : Scaled}
    (h : i.nearest? length = some d) : i.contains d = true := by
  simp only [Interval.nearest?] at h
  split at h
  · rename_i hb ha
    split at h
    · simp_all
    · split at h
      · simp_all
      · split at h <;> simp_all
  · simp_all
  · simp_all
  · simp at h

end Calculator.Decimal
