import Calculator.Printer

/-! The value of an expression: the number that its tokens have been reduced to. -/

namespace Calculator

/-- The token to blame for tokens that are no single number: the first one that is no number, else
the last one. -/
def offender? (tokens : List Token) : Option Token :=
  match tokens.find? fun t => !t.isNumber with
  | some t => some t
  | none => tokens.getLast?

/-- Why some tokens are no single number. -/
def notReduced (tokens : List Token) : Except Failure Failure :=
  match tokens.find? (Token.isChar '(') with
  | some t => .ok (.at .unmatchedOpen t)
  | none => do
      let rendered ← ({} : Printer).tokens tokens
      pure (.evaluation ⟨.notReduced rendered, offender? tokens⟩)

/-- The value of reduced tokens, or why they have none. -/
def finalValue : List Token → Except Failure Number
  | [] => .error (.evaluation ⟨.empty, none⟩)
  | [.number n] => .ok n
  | [t] =>
      match t.name? with
      | some name => .error (.at (.unbound name) t)
      | none => do throw (← notReduced [t])
  | tokens => do throw (← notReduced tokens)

@[simp] theorem finalValue_number (n : Number) : finalValue [.number n] = .ok n := rfl

@[simp] theorem finalValue_nil : finalValue [] = .error (.evaluation ⟨.empty, none⟩) := rfl

/-- Only a single number is a value. -/
theorem finalValue_eq_ok_iff {tokens : List Token} {n : Number} :
    finalValue tokens = .ok n ↔ tokens = [.number n] := by
  unfold finalValue
  split
  · simp
  · simp
  · rename_i t ht
    split
    · cases t <;> simp_all
    · cases notReduced [t] <;> cases t <;>
        simp_all [bind, Except.bind, throw, throwThe, MonadExceptOf.throw]
  · rename_i h0 h1 h2
    constructor
    · cases notReduced tokens <;>
        simp [bind, Except.bind, throw, throwThe, MonadExceptOf.throw]
    · rintro rfl
      exact absurd rfl (h1 n)

end Calculator
