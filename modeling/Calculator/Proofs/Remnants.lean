import Calculator.Proofs.OpenExpressions

/-! Remnants.  An open expression comes to no number, and yet a run may leave something of it: a
letter, with minuses before it that are no signs, and perhaps with a number behind it that a minus
has been taken into.  Such a remnant takes the place of a group, and the operators around the group
take what they find at its ends.  So what an expression comes to is put together from what its
groups come to: first the signs, then products and quotients, then sums and differences. -/

namespace Calculator

/-- What is left of an expression. -/
inductive Remnant where
  | number (n : Number)
  /-- `x` with minuses before it, and `x-3` with the number `-3` behind it. -/
  | letter (minuses : Nat) (x : Letter) (behind : Option Number)

/-- A remnant in a row, with at most one minus before it. -/
structure Part where
  negative : Bool
  remnant : Remnant

namespace Remnant

def negated : Remnant → Remnant
  | number n => number n.neg
  | letter minuses x behind => letter (minuses + 1) x behind

/-- The failure of an operation that meets a minus. -/
def minusFailure : Failure := .at (.notANumber "-") (.sign '-')

/-- What an operation finds on its left: the last that is left there. -/
def last : Remnant → Except Failure Number
  | number n => .ok n
  | letter _ x none => .error x.failure
  | letter _ _ (some n) => .ok n

/-- What an operation finds on its right: the first that is left there. -/
def first : Remnant → Except Failure Number
  | number n => .ok n
  | letter 0 x _ => .error x.failure
  | letter (_ + 1) _ _ => .error minusFailure

def withLast (v : Number) : Remnant → Remnant
  | number _ => number v
  | letter minuses x _ => letter minuses x (some v)

/-- An operation between two remnants; its result stands where its left operand stood. -/
def operate (perform : Number → Number → Except Failure Number) (a b : Remnant) :
    Except Failure Remnant := do
  let m ← a.last
  let n ← b.first
  let v ← perform m n
  .ok (a.withLast v)

/-- The minus behind a letter is taken for the sign of a number that has none. -/
def absorb? : Remnant → Operator → Part → Option Remnant
  | letter minuses x none, .addition .minus, ⟨false, number n⟩ =>
      some (letter minuses x (some n.neg))
  | _, _, _ => none

end Remnant

namespace Part

/-- The part once its sign has been applied. -/
def signed (p : Part) : Remnant := if p.negative then p.remnant.negated else p.remnant

end Part

namespace Remnant

/-- Applies the signs of what follows a remnant. -/
def attach (a : Remnant) : List (Operator × Part) → Remnant × List (Operator × Remnant)
  | [] => (a, [])
  | (op, p) :: rest =>
      match a.absorb? op p with
      | some b => b.attach rest
      | none =>
          let (b, steps) := p.signed.attach rest
          (a, (op, b) :: steps)

/-- Carries out the products and quotients; sums and differences are left. -/
def scale (a : Remnant) : List (Operator × Remnant) →
    Except Failure (Remnant × List (Addition × Remnant))
  | [] => .ok (a, [])
  | (.scaling op, b) :: steps => do
      let c ← a.operate op.perform b
      c.scale steps
  | (.addition op, b) :: steps => do
      let (c, left) ← b.scale steps
      .ok (a, (op, c) :: left)

/-- Carries out sums and differences. -/
def total (a : Remnant) : List (Addition × Remnant) → Except Failure Remnant
  | [] => .ok a
  | (op, b) :: steps => do
      let c ← a.operate op.perform b
      c.total steps

/-- The second of two minuses is an operator with the first on its left. -/
def unstacked : Remnant → Except Failure Remnant
  | letter (_ + 2) _ _ => .error minusFailure
  | a => .ok a

end Remnant

/-- Remnants with operators between them. -/
structure Row where
  first : Part
  rest : List (Operator × Part)

namespace Row

def single (a : Remnant) : Row := ⟨⟨false, a⟩, []⟩

/-- The row with a minus before it. -/
def negated (r : Row) : Row := ⟨⟨true, r.first.remnant⟩, r.rest⟩

def append (r : Row) (op : Operator) (r' : Row) : Row :=
  ⟨r.first, r.rest ++ (op, r'.first) :: r'.rest⟩

/-- What is left of a row. -/
def remnant (r : Row) : Except Failure Remnant := do
  let (a, steps) := r.first.signed.attach r.rest
  let (b, left) ← a.scale steps
  let c ← b.unstacked
  c.total left

end Row

def Standing.remnant : Standing → Remnant
  | number n => .number n
  | unbound x => .letter 0 x none

namespace Expression

variable {l : Level}

/-- The row that an expression is once its groups have been run, in the order in which they close.
-/
def row : {l : Level} → Expression Standing l → Except Failure Row
  | _, atom a => .ok (.single a.remnant)
  | _, group e => do
      let r ← e.row
      let a ← r.remnant
      .ok (.single a)
  | _, plain p => p.row
  | _, negated p => do
      let r ← p.row
      .ok r.negated
  | _, single f => f.row
  | _, scaled t op f => do
      let r ← t.row
      let r' ← f.row
      .ok (r.append (.scaling op) r')
  | _, term t => t.row
  | _, added e op t => do
      let r ← e.row
      let r' ← t.row
      .ok (r.append (.addition op) r')

/-- What is left of an expression. -/
def remnant (e : Expression Standing l) : Except Failure Remnant := do
  let r ← e.row
  r.remnant

/-- The letter is the first that an operation meets, or it alone is left. -/
def Exposes (e : Expression Standing l) (x : Letter) : Prop :=
  e.remnant = .error x.failure ∨ e.remnant = .ok (.letter 0 x none)

end Expression

/-! ### Tokens of remnants -/

namespace Remnant

/-- The tokens before the last one. -/
def front : Remnant → List Token
  | number _ => []
  | letter minuses _ none => List.replicate minuses (.sign '-')
  | letter minuses x (some _) => List.replicate minuses (.sign '-') ++ [.sign x.char]

def lastToken : Remnant → Token
  | number n => .number n
  | letter _ x none => .sign x.char
  | letter _ _ (some n) => .number n

def tokens (a : Remnant) : List Token := a.front ++ [a.lastToken]

@[simp] theorem tokens_number (n : Number) : (number n).tokens = [.number n] := rfl

@[simp] theorem tokens_letter_zero (x : Letter) : (letter 0 x none).tokens = [.sign x.char] := rfl

theorem tokens_letter_succ (minuses : Nat) (x : Letter) (behind : Option Number) :
    (letter (minuses + 1) x behind).tokens = .sign '-' :: (letter minuses x behind).tokens := by
  cases behind <;> rfl

/-- A number that a minus has been taken into stands behind the letter. -/
theorem tokens_letter_some (minuses : Nat) (x : Letter) (n : Number) :
    (letter minuses x (some n)).tokens = (letter minuses x none).tokens ++ [.number n] := rfl

end Remnant

def Part.tokens (p : Part) : List Token :=
  if p.negative then .sign '-' :: p.remnant.tokens else p.remnant.tokens

/-- The tokens of parts that follow an operator each. -/
def partTokens (rest : List (Operator × Part)) : List Token :=
  rest.flatMap fun s => .sign s.1.char :: s.2.tokens

namespace Row

def tokens (r : Row) : List Token := r.first.tokens ++ partTokens r.rest

@[simp] theorem tokens_single (a : Remnant) : (single a).tokens = a.tokens := List.append_nil _

theorem tokens_append (r r' : Row) (op : Operator) :
    (r.append op r').tokens = r.tokens ++ .sign op.char :: r'.tokens := by
  simp [tokens, append, partTokens]

end Row

end Calculator
