import Calculator.Proofs.Lexemes

/-! Expressions.  Trees of the grammar whose sums consist of products, products of factors, factors
of primaries with at most one minus, and primaries of atoms and of sums in parentheses, together
with their lexemes and with the values that the trees give them. -/

namespace Calculator

inductive Level where
  | sum
  | product
  | factor
  | primary
  deriving DecidableEq, Repr

/-- Derivations of the grammar; sums and products grow to the right. -/
inductive Expression (α : Type) : Level → Type where
  | atom (a : α) : Expression α .primary
  | group (e : Expression α .sum) : Expression α .primary
  | plain (p : Expression α .primary) : Expression α .factor
  | negated (p : Expression α .primary) : Expression α .factor
  | single (f : Expression α .factor) : Expression α .product
  | scaled (t : Expression α .product) (op : Scaling) (f : Expression α .factor) :
      Expression α .product
  | term (t : Expression α .product) : Expression α .sum
  | added (e : Expression α .sum) (op : Addition) (t : Expression α .product) : Expression α .sum

namespace Expression

variable {α β : Type} {l : Level}

/-- The lexemes of an expression, from left to right. -/
def lexemes : {l : Level} → Expression α l → List (Lexeme α)
  | _, atom a => [.atom a]
  | _, group e => .sign '(' :: (e.lexemes ++ [.sign ')'])
  | _, plain p => p.lexemes
  | _, negated p => .sign '-' :: p.lexemes
  | _, single f => f.lexemes
  | _, scaled t op f => t.lexemes ++ .sign op.char :: f.lexemes
  | _, term t => t.lexemes
  | _, added e op t => e.lexemes ++ .sign op.char :: t.lexemes

def map (f : α → β) : {l : Level} → Expression α l → Expression β l
  | _, atom a => atom (f a)
  | _, group e => group (e.map f)
  | _, plain p => plain (p.map f)
  | _, negated p => negated (p.map f)
  | _, single g => single (g.map f)
  | _, scaled t op g => scaled (t.map f) op (g.map f)
  | _, term t => term (t.map f)
  | _, added e op t => added (e.map f) op (t.map f)

theorem lexemes_map (f : α → β) (e : Expression α l) :
    (e.map f).lexemes = e.lexemes.map (Lexeme.map f) := by
  induction e <;> simp_all [map, lexemes, Lexeme.map]

/-- The expression with what an action makes of its atoms, one after the other. -/
def mapM {m : Type → Type} [Monad m] (f : α → m β) : {l : Level} → Expression α l →
    m (Expression β l)
  | _, atom a => do
      let b ← f a
      pure (atom b)
  | _, group e => do
      let e' ← e.mapM f
      pure (group e')
  | _, plain p => do
      let p' ← p.mapM f
      pure (plain p')
  | _, negated p => do
      let p' ← p.mapM f
      pure (negated p')
  | _, single g => do
      let g' ← g.mapM f
      pure (single g')
  | _, scaled t op g => do
      let t' ← t.mapM f
      let g' ← g.mapM f
      pure (scaled t' op g')
  | _, term t => do
      let t' ← t.mapM f
      pure (term t')
  | _, added e op t => do
      let e' ← e.mapM f
      let t' ← t.mapM f
      pure (added e' op t')

/-- The lexemes can be gone through instead of the expression. -/
theorem mapM_lexemes {m : Type → Type} [Monad m] [LawfulMonad m] (f : α → m β)
    (e : Expression α l) :
    e.lexemes.mapM (Lexeme.mapM f) = (do let e' ← e.mapM f; pure e'.lexemes) := by
  induction e <;> simp_all [lexemes, mapM, Lexeme.mapM]

/-- When an action has no effect, it maps the atoms. -/
theorem mapM_eq_pure {m : Type → Type} [Monad m] [LawfulMonad m] {f : α → m β} {g : α → β}
    {e : Expression α l} (h : ∀ a, .atom a ∈ e.lexemes → f a = pure (g a)) :
    e.mapM f = pure (e.map g) := by
  induction e with
  | atom a => simp [mapM, map, h a (by simp [lexemes])]
  | group e ih => simp [mapM, map, ih fun a ha => h a (by simp [lexemes, ha])]
  | plain p ih => simp [mapM, map, ih h]
  | negated p ih => simp [mapM, map, ih fun a ha => h a (by simp [lexemes, ha])]
  | single g ih => simp [mapM, map, ih h]
  | scaled t op g iht ihg =>
    simp [mapM, map, iht fun a ha => h a (by simp [lexemes, ha]),
      ihg fun a ha => h a (by simp [lexemes, ha])]
  | term t ih => simp [mapM, map, ih h]
  | added e op t ihe iht =>
    simp [mapM, map, ihe fun a ha => h a (by simp [lexemes, ha]),
      iht fun a ha => h a (by simp [lexemes, ha])]

theorem mapM_eq_ok {f : α → Except Failure β} {g : α → β} {e : Expression α l}
    (h : ∀ a, .atom a ∈ e.lexemes → f a = .ok (g a)) : e.mapM f = .ok (e.map g) :=
  mapM_eq_pure h

theorem mapM_map {m : Type → Type} [Monad m] [LawfulMonad m] {γ : Type} (f : α → β) (g : β → m γ)
    (e : Expression α l) : (e.map f).mapM g = e.mapM fun a => g (f a) := by
  induction e <;> simp_all [map, mapM]

def signs : List Char := ['(', ')', '+', '-', '*', '/']

/-- The atoms of an expression never stand side by side. -/
theorem separated_lexemes (e : Expression α l) : Separated (· ∈ signs) e.lexemes := by
  have hscaling : ∀ op : Scaling, op.char ∈ signs := fun op => by cases op <;> decide
  have haddition : ∀ op : Addition, op.char ∈ signs := fun op => by cases op <;> decide
  induction e with
  | atom a => exact .atom a
  | group e ih => exact .sign (by decide) (ih.append_sign (by decide) .nil)
  | plain p ih => exact ih
  | negated p ih => exact .sign (by decide) ih
  | single f ih => exact ih
  | scaled t op f iht ihf => exact iht.append_sign (hscaling op) ihf
  | term t ih => exact ih
  | added e op t ihe iht => exact ihe.append_sign (haddition op) iht

theorem forall_mem_signs {p : Char → Prop} :
    (∀ c ∈ signs, p c) ↔ p '(' ∧ p ')' ∧ p '+' ∧ p '-' ∧ p '*' ∧ p '/' := by
  simp [signs]

theorem isNoDigit_of_mem_signs {c : Char} (h : c ∈ signs) : IsNoDigit c := by
  have hall : ∀ c ∈ signs, Text.isAsciiDigit c = false := forall_mem_signs.mpr (by decide)
  exact hall c h

def text (e : Expression Literal l) : List Char :=
  e.lexemes.flatMap (Lexeme.spell id Literal.digits)

/-- The tokens of an expression whose literals have been read. -/
def tokens (e : Expression Number l) : List Token := e.lexemes.map Lexeme.token

end Expression

/-! ### Values -/

/-- Whether the operation refuses its right operand: a divisor must not be zero. -/
def Scaling.refuses (op : Scaling) (b : Number) : Bool := op = .dividedBy && b.isZero

/-- The product, or the quotient: exact when an integer divides another, and in double precision
otherwise. -/
def Scaling.apply : Scaling → Number → Number → Except Number.Overflow Number
  | .times, a, b => a.mul b
  | .dividedBy, .int i, .int j =>
      if j ∣ i then .ok (.int (i / j)) else Number.quotient (.int i) (.int j)
  | .dividedBy, a, b => a.quotient b

def Addition.apply : Addition → Number → Number → Except Number.Overflow Number
  | .plus, a, b => a.add b
  | .minus, a, b => a.sub b

namespace Expression

variable {l : Level}

/-- The value of an expression, if no divisor is zero and no operation overflows. -/
def value : {l : Level} → Expression Number l → Option Number
  | _, atom n => some n
  | _, group e => e.value
  | _, plain p => p.value
  | _, negated p => p.value.map Number.neg
  | _, single f => f.value
  | _, scaled t op f => do
      let a ← t.value
      let b ← f.value
      if op.refuses b then none else (op.apply a b).toOption
  | _, term t => t.value
  | _, added e op t => do
      let a ← e.value
      let b ← t.value
      (op.apply a b).toOption

def HasZeroDivisor : {l : Level} → Expression Number l → Prop
  | _, atom _ => False
  | _, group e => e.HasZeroDivisor
  | _, plain p => p.HasZeroDivisor
  | _, negated p => p.HasZeroDivisor
  | _, single f => f.HasZeroDivisor
  | _, scaled t op f =>
      t.HasZeroDivisor ∨ f.HasZeroDivisor ∨ ∃ b, f.value = some b ∧ op.refuses b = true
  | _, term t => t.HasZeroDivisor
  | _, added e _ t => e.HasZeroDivisor ∨ t.HasZeroDivisor

def Overflows : {l : Level} → Expression Number l → Prop
  | _, atom _ => False
  | _, group e => e.Overflows
  | _, plain p => p.Overflows
  | _, negated p => p.Overflows
  | _, single f => f.Overflows
  | _, scaled t op f =>
      t.Overflows ∨ f.Overflows ∨ ∃ a b, t.value = some a ∧ f.value = some b ∧
        op.refuses b = false ∧ (op.apply a b).toOption = none
  | _, term t => t.Overflows
  | _, added e op t =>
      e.Overflows ∨ t.Overflows ∨ ∃ a b, e.value = some a ∧ t.value = some b ∧
        (op.apply a b).toOption = none

theorem value_of_hasZeroDivisor {e : Expression Number l} (h : e.HasZeroDivisor) :
    e.value = none := by
  induction e with
  | atom n => exact h.elim
  | group e ih => exact ih h
  | plain p ih => exact ih h
  | negated p ih => rw [value, ih h]; rfl
  | single f ih => exact ih h
  | scaled t op f iht ihf =>
    rw [value]
    rcases h with h | h | ⟨b, hb, hr⟩
    · rw [iht h]; rfl
    · rw [ihf h]; cases t.value <;> rfl
    · rw [hb]; cases t.value <;> simp [hr]
  | term t ih => exact ih h
  | added e op t ihe iht =>
    rw [value]
    rcases h with h | h
    · rw [ihe h]; rfl
    · rw [iht h]; cases e.value <;> rfl

end Expression

end Calculator
