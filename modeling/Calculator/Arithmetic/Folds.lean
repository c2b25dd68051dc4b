import Calculator.Pass
import Calculator.Window

/-! Folding operators.  An operator and the two tokens around it make a window, which the result of
the operation replaces.  A scan folds from the left, and the pipeline folds products and quotients
before sums and differences. -/

namespace Calculator

def operand : Token → Except Failure Number
  | .number n => .ok n
  | t =>
      if t.isChar '(' then .error (.at .unmatchedOpen t)
      else
        match t.name? with
        | some name => .error (.at (.unbound name) t)
        | none => .error (.at (.notANumber t.text) t)

/-- The quotient of two numbers; `sign` is the token that stands between them. -/
def divide (a b : Number) (sign : Token) : Except Failure Number :=
  if b.isZero then .error (.at .zeroDivisor sign) else Failure.ofOverflow (a.div b)

/-- The result of an operation on the two outer tokens of a window of three. -/
def foldWindow (operation : Number → Token → Number → Except Failure Number) :
    List Token → Except Failure (List Token)
  | [left, sign, right] => do
      let a ← operand left
      let b ← operand right
      let n ← operation a sign b
      pure [.number n]
  | window => .ok window

def multiply (a : Number) (sign : Token) (b : Number) : Except Failure Number :=
  if sign.isChar '*' then Failure.ofOverflow (a.mul b) else divide a b sign

def addUp (a : Number) (sign : Token) (b : Number) : Except Failure Number :=
  Failure.ofOverflow (if sign.isChar '+' then a.add b else a.sub b)

def foldProducts (tokens : List Token) : Except Failure (List Token) :=
  Window.scan [Window.anything, Window.isCharOf ['*', '/'], Window.anything] (foldWindow multiply)
    tokens

def foldSums (tokens : List Token) : Except Failure (List Token) :=
  Window.scan [Window.anything, Window.isCharOf ['+', '-'], Window.anything] (foldWindow addUp)
    tokens

namespace Pass

def foldMultiplicative : Pass := ofFunction "fold-multiplicative" foldProducts

def foldAdditive : Pass := ofFunction "fold-additive" foldSums

end Pass

@[simp] theorem operand_number (n : Number) : operand (.number n) = .ok n := rfl

/-- Only a number is an operand. -/
theorem operand_eq_ok_iff {t : Token} {n : Number} : operand t = .ok n ↔ t = .number n := by
  cases t with
  | number m => simp [operand]
  | char c p =>
    simp only [operand, reduceCtorEq, iff_false]
    split
    · simp
    · split <;> simp
  | numeral s => simp [operand, Token.name?]
  | symbol s => simp [operand, Token.name?]

end Calculator
