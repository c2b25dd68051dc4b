import Calculator.Pass

/-! Signs.  A minus before a number is a sign when no number stands before the minus.  The tokens of
the input decide, not what has become of them. -/

namespace Calculator

/-- Applies the signs in some tokens; `afterNumber` says whether a number stands before them. -/
def signsFrom (afterNumber : Bool) : List Token → List Token
  | [] => []
  | t :: tokens =>
      match tokens with
      | .number n :: rest =>
          if t.isChar '-' && !afterNumber then .number n.neg :: signsFrom true rest
          else t :: signsFrom t.isNumber (.number n :: rest)
      | tokens => t :: signsFrom t.isNumber tokens
termination_by tokens => tokens.length

def applySigns (tokens : List Token) : List Token := signsFrom false tokens

def Pass.unaryMinus : Pass := ofFunction "unary-minus" fun tokens => .ok (applySigns tokens)

theorem length_signsFrom_le (afterNumber : Bool) (tokens : List Token) :
    (signsFrom afterNumber tokens).length ≤ tokens.length := by
  fun_induction signsFrom afterNumber tokens <;> simp_all
  omega

end Calculator
