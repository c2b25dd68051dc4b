import Calculator.Proofs.Assignments

/-! Open expressions.  Some of their letters are bound to nothing.  The parts without such letters
have their numbers all the same, unless one of their operations fails. -/

namespace Calculator

/-- What an operand is once names have been looked up: a number, or a letter that is not bound. -/
inductive Standing where
  | number (n : Number)
  | unbound (x : Letter)

namespace Standing

def token : Standing → Token
  | number n => .number n
  | unbound x => .sign x.char

def number? : Standing → Option Number
  | number n => some n
  | unbound _ => none

end Standing

namespace Letter

variable (x : Letter)

theorem char_ne {c : Char} (hc : Text.isLetter c = false) : x.char ≠ c := by
  rintro rfl
  have hletter := x.isLetter
  rw [hc] at hletter
  cases hletter

theorem isDigit_sign : (Token.sign x.char).isDigit = false := by
  rw [Bool.eq_false_iff]
  intro hdigit
  have hname : (Token.sign x.char).isName = false := Token.isName_eq_false_of_isDigit hdigit
  rw [Token.isName, x.name?_sign] at hname
  cases hname

theorem isPlain_sign : (Token.sign x.char).isPlain = false := by
  rw [Bool.eq_false_iff]
  intro hplain
  have hname := Token.name?_of_isPlain hplain
  rw [x.name?_sign] at hname
  cases hname

end Letter

/-- The failure of an operation that meets a letter. -/
def Letter.failure (x : Letter) : Failure := .at (.unbound x.name) (.sign x.char)

namespace Expression

variable {l : Level}

/-- A letter that is not bound occurs in the expression. -/
def Mentions (e : Expression Standing l) (x : Letter) : Prop := .atom (.unbound x) ∈ e.lexemes

def IsOpen (e : Expression Standing l) : Prop := ∃ x, e.Mentions x

/-- The number that an expression without such letters comes to, unless one of its operations
fails. -/
def known : {l : Level} → Expression Standing l → Option Number
  | _, atom a => a.number?
  | _, group e => e.known
  | _, plain p => p.known
  | _, negated p => p.known.map Number.neg
  | _, single f => f.known
  | _, scaled t op f => do
      let a ← t.known
      let b ← f.known
      if op.refuses b then none else (op.apply a b).toOption
  | _, term t => t.known
  | _, added e op t => do
      let a ← e.known
      let b ← t.known
      (op.apply a b).toOption

/-- A divisor is zero in a division of two known numbers. -/
def HasKnownZeroDivisor : {l : Level} → Expression Standing l → Prop
  | _, atom _ => False
  | _, group e => e.HasKnownZeroDivisor
  | _, plain p => p.HasKnownZeroDivisor
  | _, negated p => p.HasKnownZeroDivisor
  | _, single f => f.HasKnownZeroDivisor
  | _, scaled t op f =>
      t.HasKnownZeroDivisor ∨ f.HasKnownZeroDivisor ∨
        ∃ a b, t.known = some a ∧ f.known = some b ∧ op.refuses b = true
  | _, term t => t.HasKnownZeroDivisor
  | _, added e _ t => e.HasKnownZeroDivisor ∨ t.HasKnownZeroDivisor

/-- An operation on two known numbers overflows. -/
def HasKnownOverflow : {l : Level} → Expression Standing l → Prop
  | _, atom _ => False
  | _, group e => e.HasKnownOverflow
  | _, plain p => p.HasKnownOverflow
  | _, negated p => p.HasKnownOverflow
  | _, single f => f.HasKnownOverflow
  | _, scaled t op f =>
      t.HasKnownOverflow ∨ f.HasKnownOverflow ∨ ∃ a b, t.known = some a ∧ f.known = some b ∧
        op.refuses b = false ∧ (op.apply a b).toOption = none
  | _, term t => t.HasKnownOverflow
  | _, added e op t =>
      e.HasKnownOverflow ∨ t.HasKnownOverflow ∨ ∃ a b, e.known = some a ∧ t.known = some b ∧
        (op.apply a b).toOption = none

/-- No operation on known numbers fails. -/
structure IsSound (e : Expression Standing l) : Prop where
  zeroDivisor : ¬e.HasKnownZeroDivisor
  overflow : ¬e.HasKnownOverflow

/-! ### Letters of an expression -/

section Mentions

variable {x : Letter} {e : Expression Standing .sum} {t : Expression Standing .product}
  {f : Expression Standing .factor} {p : Expression Standing .primary}

theorem mentions_group : (group e).Mentions x ↔ e.Mentions x := by simp [Mentions, lexemes]

theorem mentions_negated : (negated p).Mentions x ↔ p.Mentions x := by simp [Mentions, lexemes]

theorem mentions_scaled {op : Scaling} :
    (scaled t op f).Mentions x ↔ t.Mentions x ∨ f.Mentions x := by simp [Mentions, lexemes]

theorem mentions_added {op : Addition} :
    (added e op t).Mentions x ↔ e.Mentions x ∨ t.Mentions x := by simp [Mentions, lexemes]

end Mentions

end Expression

end Calculator
