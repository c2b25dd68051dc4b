import Calculator.Decimal.Layout
import Calculator.Decimal.Reading

/-! Numbers are exact integers or double precision numbers.  Integers stay integers under the four
operations, apart from a quotient that is not whole; an integer that meets a double precision number
is rounded to one first. -/

namespace Calculator

/-- An integer of any size, or a double precision number. -/
inductive Number where
  | int (value : Int)
  | float (value : Float)
  deriving DecidableEq

namespace Number

/-- The two ways in which a result is too large for double precision. -/
inductive Overflow where
  | conversion
  | quotient
  deriving DecidableEq, Repr

def Overflow.message : Overflow → String
  | .conversion => "int too large to convert to float"
  | .quotient => "integer division result too large for a float"

def toFloat : Number → Except Overflow Float
  | .float x => .ok x
  | .int i =>
      match Binary64.ofInt? i with
      | some x => .ok x
      | none => .error .conversion

/-- An operation with one rule for two integers and one for two double precision numbers. -/
def combine (onInts : Int → Int → Int) (onFloats : Float → Float → Float) (a b : Number) :
    Except Overflow Number :=
  match a, b with
  | .int i, .int j => .ok (.int (onInts i j))
  | a, b => do
      let x ← a.toFloat
      let y ← b.toFloat
      pure (.float (onFloats x y))

def add : Number → Number → Except Overflow Number := combine (· + ·) (· + ·)
def sub : Number → Number → Except Overflow Number := combine (· - ·) (· - ·)
def mul : Number → Number → Except Overflow Number := combine (· * ·) (· * ·)

def neg : Number → Number
  | .int i => .int (-i)
  | .float x => .float (-x)

/-- Whether a number is zero; the two signed zeros of double precision are. -/
def isZero : Number → Bool
  | .int i => i = 0
  | .float x => x == 0

/-- The quotient in double precision, rounded once, for a divisor that is not zero. -/
def quotient (a b : Number) : Except Overflow Number :=
  match a, b with
  | .int i, .int j =>
      match Binary64.ofRatio ((i < 0) != (j < 0)) i.natAbs j.natAbs with
      | some x => .ok (.float x)
      | none => .error .quotient
  | a, b => do
      let x ← a.toFloat
      let y ← b.toFloat
      pure (.float (x / y))

/-- The quotient by a divisor that is not zero: a whole quotient of integers is an integer. -/
def div (a b : Number) : Except Overflow Number :=
  match a, b with
  | .int i, .int j => if i % j = 0 then .ok (.int (i / j)) else quotient a b
  | a, b => quotient a b

/-- Whether two numbers have the same value.  An integer is compared with a double precision number
exactly, and what is not a number equals nothing. -/
def same : Number → Number → Bool
  | .int i, .int j => i = j
  | .float x, .float y => x == y
  | .int i, .float x => Binary64.equalsInt x i
  | .float x, .int i => Binary64.equalsInt x i

def text : Number → String
  | .int i => toString i
  | .float x => Decimal.floatText x

/-- Whether a number may be written: integers of too many digits may not. -/
def isWritable : Number → Bool
  | .int i => i.natAbs < Nat.pow 10 Decimal.digitLimit
  | .float _ => true

@[simp] theorem add_int (i j : Int) : add (.int i) (.int j) = .ok (.int (i + j)) := rfl
@[simp] theorem sub_int (i j : Int) : sub (.int i) (.int j) = .ok (.int (i - j)) := rfl
@[simp] theorem mul_int (i j : Int) : mul (.int i) (.int j) = .ok (.int (i * j)) := rfl
@[simp] theorem neg_int (i : Int) : neg (.int i) = .int (-i) := rfl

theorem div_int_of_dvd {i j : Int} (h : i % j = 0) :
    div (.int i) (.int j) = .ok (.int (i / j)) := by
  simp [div, h]

theorem div_int_of_not_dvd {i j : Int} (h : i % j ≠ 0) :
    div (.int i) (.int j) = quotient (.int i) (.int j) := by
  simp [div, h]

@[simp] theorem same_int (i j : Int) : same (.int i) (.int j) = decide (i = j) := rfl

end Number

end Calculator
