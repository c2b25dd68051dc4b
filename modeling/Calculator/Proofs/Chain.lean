import Calculator.Arithmetic.Signs
import Calculator.Proofs.Folding

/-! Chains: numbers, each with at most one minus in front, and operators between them.  A list of
tokens without parentheses is reduced to a single number exactly when it is a chain whose operations
succeed, and the number is the reading of the chain: signs first, then products and quotients from
the left, then sums and differences from the left. -/

namespace Calculator

/-- A sign of products and quotients. -/
inductive Scaling where
  | times
  | dividedBy
  deriving DecidableEq, Repr

/-- A sign of sums and differences. -/
inductive Addition where
  | plus
  | minus
  deriving DecidableEq, Repr

inductive Operator where
  | scaling (op : Scaling)
  | addition (op : Addition)
  deriving DecidableEq, Repr

def Scaling.char : Scaling → Char
  | .times => '*'
  | .dividedBy => '/'

def Addition.char : Addition → Char
  | .plus => '+'
  | .minus => '-'

def Operator.char : Operator → Char
  | .scaling op => op.char
  | .addition op => op.char

@[simp] theorem Operator.char_scaling (op : Scaling) : (scaling op).char = op.char := rfl

@[simp] theorem Operator.char_addition (op : Addition) : (addition op).char = op.char := rfl

/-- A character that stands at no offset. -/
def Token.sign (c : Char) : Token := .char c none

/-- What the folds compute for an operator. -/
def Scaling.perform (op : Scaling) (a b : Number) : Except Failure Number :=
  multiply a (.sign op.char) b

def Addition.perform (op : Addition) (a b : Number) : Except Failure Number :=
  addUp a (.sign op.char) b

/-- A number with at most one minus in front of it. -/
structure Signed where
  negative : Bool
  value : Number

namespace Signed

def number (s : Signed) : Number := if s.negative then s.value.neg else s.value

def tokens (s : Signed) : List Token :=
  if s.negative then [.sign '-', .number s.value] else [.number s.value]

end Signed

/-- Products, quotients, sums and differences that follow a number. -/
abbrev Steps : Type := List (Operator × Number)

namespace Steps

def tokens (steps : Steps) : List Token :=
  steps.flatMap fun s => [.sign s.1.char, .number s.2]

/-- Carries out the products and quotients; sums and differences are left. -/
def scale (a : Number) : Steps → Except Failure (Number × List (Addition × Number))
  | [] => .ok (a, [])
  | (.scaling op, b) :: steps => do
      let n ← op.perform a b
      scale n steps
  | (.addition op, b) :: steps => do
      let (n, left) ← scale b steps
      .ok (a, (op, n) :: left)

/-- Carries out sums and differences. -/
def total (a : Number) : List (Addition × Number) → Except Failure Number
  | [] => .ok a
  | (op, b) :: steps => do
      let n ← op.perform a b
      total n steps

def additions (left : List (Addition × Number)) : Steps := left.map fun s => (.addition s.1, s.2)

@[simp] theorem tokens_nil : tokens [] = [] := rfl

@[simp] theorem tokens_cons (op : Operator) (b : Number) (steps : Steps) :
    tokens ((op, b) :: steps) = .sign op.char :: .number b :: tokens steps := rfl

end Steps

/-- Numbers with signs and with operators between them. -/
structure Chain where
  first : Signed
  rest : List (Operator × Signed)

namespace Chain

def restTokens (rest : List (Operator × Signed)) : List Token :=
  rest.flatMap fun s => .sign s.1.char :: s.2.tokens

def tokens (c : Chain) : List Token := c.first.tokens ++ restTokens c.rest

/-- What follows the first number, with all signs applied. -/
def steps (c : Chain) : Steps := c.rest.map fun s => (s.1, s.2.number)

/-- The number that a chain comes to. -/
def reading (c : Chain) : Except Failure Number := do
  let (a, left) ← Steps.scale c.first.number c.steps
  Steps.total a left

end Chain

/-- What the pipeline does with tokens without parentheses and digits. -/
def reduce (tokens : List Token) : Except Failure (List Token) := do
  let scaled ← foldProducts (applySigns tokens)
  foldSums scaled

@[simp] theorem isScaling_scaling (op : Scaling) : isScaling (.sign op.char) = true := by
  cases op <;> rfl

@[simp] theorem isScaling_addition (op : Addition) : isScaling (.sign op.char) = false := by
  cases op <;> rfl

@[simp] theorem isAddition_addition (op : Addition) : isAddition (.sign op.char) = true := by
  cases op <;> rfl

/-! ### Chains are reduced to their reading -/

theorem signsFrom_number (afterNumber : Bool) (n : Number) (tokens : List Token) :
    signsFrom afterNumber (.number n :: tokens) = .number n :: signsFrom true tokens := by
  rw [signsFrom.eq_def]
  cases tokens with
  | nil => rfl
  | cons t tokens => cases t <;> simp

theorem signsFrom_minus (n : Number) (tokens : List Token) :
    signsFrom false (.sign '-' :: .number n :: tokens) =
      .number n.neg :: signsFrom true tokens := by
  rw [signsFrom]
  simp [Token.sign]

/-- Behind a number every character is an operator. -/
theorem signsFrom_operator (c : Char) (tokens : List Token) :
    signsFrom true (.sign c :: tokens) = .sign c :: signsFrom false tokens := by
  rw [signsFrom.eq_def]
  cases tokens with
  | nil => rfl
  | cons t tokens => cases t <;> simp [Token.sign, Token.isNumber]

theorem signsFrom_signed (s : Signed) (tokens : List Token) :
    signsFrom false (s.tokens ++ tokens) = .number s.number :: signsFrom true tokens := by
  obtain ⟨negative, n⟩ := s
  cases negative
  · exact signsFrom_number false n tokens
  · exact signsFrom_minus n tokens

theorem applySigns_tokens (c : Chain) :
    applySigns c.tokens = .number c.first.number :: c.steps.tokens := by
  have h : ∀ rest : List (Operator × Signed), signsFrom true (Chain.restTokens rest) =
      Steps.tokens (rest.map fun s => (s.1, s.2.number)) := by
    intro rest
    induction rest with
    | nil => simp [Chain.restTokens, signsFrom]
    | cons s rest ih =>
      rw [Chain.restTokens, List.flatMap_cons, List.cons_append, signsFrom_operator,
        signsFrom_signed, ← Chain.restTokens, ih]
      rfl
  rw [applySigns, Chain.tokens, signsFrom_signed, h]
  rfl

theorem foldProducts_steps (a : Number) (steps : Steps) :
    foldProducts (.number a :: steps.tokens) =
      (do let (n, left) ← steps.scale a; .ok (.number n :: (Steps.additions left).tokens)) := by
  rw [foldProducts_eq_fold, fold_cons]
  induction steps generalizing a with
  | nil => rfl
  | cons s steps ih =>
    obtain ⟨op, b⟩ := s
    cases op with
    | scaling op =>
      rw [Steps.tokens_cons, Operator.char_scaling,
        foldFrom_cons_of_sign multiply (isScaling_scaling op)]
      simp only [Steps.scale, bind_assoc]
      have hc : combine multiply (.number a) (.sign op.char) (.number b) = op.perform a b := rfl
      rw [hc]
      congr 1
      funext n
      exact ih n
    | addition op =>
      rw [Steps.tokens_cons, Operator.char_addition,
        foldFrom_cons_of_not_sign multiply (isScaling_addition op),
        foldFrom_cons_of_not_sign multiply rfl, ih b]
      simp only [Steps.scale, bind_assoc]
      congr 1

theorem foldSums_additions (a : Number) (left : List (Addition × Number)) :
    foldSums (.number a :: (Steps.additions left).tokens) =
      (do let n ← Steps.total a left; .ok [.number n]) := by
  rw [foldSums_eq_fold, fold_cons]
  induction left generalizing a with
  | nil => rfl
  | cons s left ih =>
    obtain ⟨op, b⟩ := s
    change foldFrom isAddition addUp (.number a)
      (.sign op.char :: .number b :: (Steps.additions left).tokens) = _
    rw [foldFrom_cons_of_sign addUp (isAddition_addition op)]
    simp only [Steps.total, bind_assoc]
    have hc : combine addUp (.number a) (.sign op.char) (.number b) = op.perform a b := rfl
    rw [hc]
    congr 1
    funext n
    exact ih n

theorem reduce_tokens (c : Chain) :
    reduce c.tokens = (do let n ← c.reading; .ok [.number n]) := by
  rw [reduce, applySigns_tokens, foldProducts_steps]
  simp only [Chain.reading, bind_assoc]
  congr 1
  funext q
  obtain ⟨n, left⟩ := q
  exact foldSums_additions n left

/-! ### Only chains are reduced to a single number -/

/-- Numbers and operators that alternate, up to a number at the end; the index says whether a number
comes first. -/
inductive Alternates (isOperator : Token → Bool) : Bool → List Token → Prop
  | done : Alternates isOperator false []
  | operator {t : Token} {tokens : List Token} : isOperator t = true →
      Alternates isOperator true tokens → Alternates isOperator false (t :: tokens)
  | number {n : Number} {tokens : List Token} : Alternates isOperator false tokens →
      Alternates isOperator true (.number n :: tokens)

theorem Alternates.mono {isOperator isOperator' : Token → Bool} {expectsNumber : Bool}
    {tokens : List Token} (h : Alternates isOperator expectsNumber tokens)
    (hop : ∀ t, isOperator t = true → isOperator' t = true) :
    Alternates isOperator' expectsNumber tokens := by
  induction h with
  | done => exact .done
  | operator ht _ ih => exact .operator (hop _ ht) ih
  | number _ ih => exact .number ih

/-- What a fold turns into an alternating list has alternated before, with the signs of the fold as
further operators. -/
theorem alternates_of_foldFrom {isSign isOperator : Token → Bool}
    {operation : Number → Token → Number → Except Failure Number}
    (hn : ∀ n, (isOperator (.number n) || isSign (.number n)) = false) {left : Token}
    {tokens folded : List Token}
    (h : foldFrom isSign operation left tokens = .ok folded) {expectsNumber : Bool}
    (hf : Alternates isOperator expectsNumber folded) :
    Alternates (fun t => isOperator t || isSign t) expectsNumber (left :: tokens) := by
  have hop : ∀ t, isOperator t = true → (isOperator t || isSign t) = true := by simp_all
  induction left, tokens using foldFrom.induct isSign generalizing folded expectsNumber with
  | case1 left =>
    cases h
    exact hf.mono hop
  | case2 left t =>
    cases h
    exact hf.mono hop
  | case3 left t right rest ht ih =>
    rw [foldFrom_cons_of_sign operation ht, Except.bind_eq_ok_iff] at h
    obtain ⟨n, hc, h⟩ := h
    obtain ⟨a, ha, hc⟩ := Except.bind_eq_ok_iff.mp hc
    obtain ⟨b, hb, -⟩ := Except.bind_eq_ok_iff.mp hc
    obtain rfl := operand_eq_ok_iff.mp ha
    obtain rfl := operand_eq_ok_iff.mp hb
    have hs : (isOperator t || isSign t) = true := by simp [ht]
    have halt := ih n h hf
    -- the number that the window was replaced by cannot be an operator
    cases halt with
    | number hrest => exact .number (.operator hs (.number hrest))
    | operator hnum _ => simp [hn] at hnum
  | case4 left t right rest ht ih =>
    rw [foldFrom_cons_of_not_sign operation (by simpa using ht), Except.bind_eq_ok_iff] at h
    obtain ⟨folded', hfolded, h⟩ := h
    cases h
    cases hf with
    | number hrest => exact .number (ih hfolded hrest)
    | operator ht' hrest => exact .operator (hop _ ht') (ih hfolded hrest)

/-- Numbers, each with at most one minus in front, and operators that alternate. -/
inductive SignedAlternates (isOperator : Token → Bool) : Bool → List Token → Prop
  | done : SignedAlternates isOperator false []
  | operator {t : Token} {tokens : List Token} : isOperator t = true →
      SignedAlternates isOperator true tokens → SignedAlternates isOperator false (t :: tokens)
  | number {n : Number} {tokens : List Token} : SignedAlternates isOperator false tokens →
      SignedAlternates isOperator true (.number n :: tokens)
  | minus {t : Token} {n : Number} {tokens : List Token} : t.isChar '-' = true →
      SignedAlternates isOperator false tokens →
      SignedAlternates isOperator true (t :: .number n :: tokens)

/-- A token that the signs leave as it is says by itself what comes after it. -/
theorem SignedAlternates.cons {isOperator : Token → Bool}
    (hn : ∀ n, isOperator (.number n) = false) {expectsNumber : Bool} {t : Token}
    {tokens signed : List Token} (h : Alternates isOperator expectsNumber (t :: signed))
    (ih : Alternates isOperator (!t.isNumber) signed →
      SignedAlternates isOperator (!t.isNumber) tokens) :
    SignedAlternates isOperator expectsNumber (t :: tokens) := by
  cases h with
  | operator ht hrest =>
    have ht' : t.isNumber = false := by
      cases t with
      | number n => simp [hn] at ht
      | _ => rfl
    rw [ht'] at ih
    exact .operator ht (ih hrest)
  | number hrest => exact .number (ih hrest)

/-- What the signs turn into an alternating list has alternated before. -/
theorem signedAlternates_of_signsFrom {isOperator : Token → Bool}
    (hn : ∀ n, isOperator (.number n) = false) {afterNumber : Bool} {tokens : List Token}
    (h : Alternates isOperator (!afterNumber) (signsFrom afterNumber tokens)) :
    SignedAlternates isOperator (!afterNumber) tokens := by
  fun_induction signsFrom afterNumber tokens with
  | case1 afterNumber =>
    cases afterNumber
    · cases h
    · exact .done
  | case2 afterNumber t n rest ht ih =>
    simp only [Bool.and_eq_true, Bool.not_eq_true'] at ht
    obtain ⟨ht, rfl⟩ := ht
    cases h with
    | number hrest => exact .minus ht (ih hrest)
  | case3 afterNumber t n rest _ ih => exact .cons hn h ih
  | case4 afterNumber t tokens _ ih => exact .cons hn h ih

theorem isCharOf_eq_true_iff {chars : List Char} {t : Token} :
    Window.isCharOf chars t = true ↔ ∃ c ∈ chars, ∃ p, t = .char c p := by
  cases t <;> simp [Window.isCharOf]

/-- The signs of the two folds are the operators. -/
theorem exists_operator {t : Token} (h : (isAddition t || isScaling t) = true) :
    ∃ op : Operator, t.withoutOffset = .sign op.char := by
  rw [Bool.or_eq_true] at h
  rcases h with h | h <;> obtain ⟨c, hc, p, rfl⟩ := isCharOf_eq_true_iff.mp h <;>
    simp only [List.mem_cons, List.not_mem_nil, or_false] at hc <;> rcases hc with rfl | rfl
  · exact ⟨.addition .plus, rfl⟩
  · exact ⟨.addition .minus, rfl⟩
  · exact ⟨.scaling .times, rfl⟩
  · exact ⟨.scaling .dividedBy, rfl⟩

/-- Signed numbers that alternate with operators are the tokens of a chain or of its rest. -/
theorem exists_chain_of_signedAlternates {expectsNumber : Bool} {tokens : List Token}
    (h : SignedAlternates (fun t => isAddition t || isScaling t) expectsNumber tokens) :
    (expectsNumber = true → ∃ c : Chain, tokens.map Token.withoutOffset = c.tokens) ∧
      (expectsNumber = false →
        ∃ rest, tokens.map Token.withoutOffset = Chain.restTokens rest) := by
  induction h with
  | done => exact ⟨nofun, fun _ => ⟨[], rfl⟩⟩
  | operator ht _ ih =>
    obtain ⟨op, hop⟩ := exists_operator ht
    obtain ⟨c, hc⟩ := ih.1 rfl
    refine ⟨nofun, fun _ => ⟨(op, c.first) :: c.rest, ?_⟩⟩
    rw [List.map_cons, hop, hc]
    rfl
  | @number n _ _ ih =>
    obtain ⟨rest, hrest⟩ := ih.2 rfl
    refine ⟨fun _ => ⟨⟨⟨false, n⟩, rest⟩, ?_⟩, nofun⟩
    rw [List.map_cons, hrest]
    rfl
  | @minus t n _ ht _ ih =>
    obtain ⟨p, rfl⟩ := Token.isChar_iff.mp ht
    obtain ⟨rest, hrest⟩ := ih.2 rfl
    refine ⟨fun _ => ⟨⟨⟨true, n⟩, rest⟩, ?_⟩, nofun⟩
    rw [List.map_cons, List.map_cons, hrest]
    rfl

/-- Tokens that are reduced to a single number are a chain. -/
theorem exists_chain_of_reduce {tokens : List Token} {n : Number}
    (h : reduce tokens = .ok [.number n]) :
    ∃ c : Chain, tokens.map Token.withoutOffset = c.tokens := by
  obtain ⟨scaled, hscaled, hsums⟩ := Except.bind_eq_ok_iff.mp h
  rw [foldSums_eq_fold] at hsums
  rw [foldProducts_eq_fold] at hscaled
  cases scaled with
  | nil => cases hsums
  | cons a scaled =>
    have h1 : Alternates (fun t => false || isAddition t) true (a :: scaled) :=
      alternates_of_foldFrom (fun _ => rfl) hsums (.number .done)
    cases happly : applySigns tokens with
    | nil =>
      rw [happly] at hscaled
      cases hscaled
    | cons b signed =>
      rw [happly] at hscaled
      have h2 : Alternates (fun t => isAddition t || isScaling t) (!false) (b :: signed) :=
        alternates_of_foldFrom (fun _ => rfl) hscaled h1
      rw [← happly, applySigns] at h2
      have h3 := signedAlternates_of_signsFrom (fun _ => rfl) h2
      exact (exists_chain_of_signedAlternates h3).1 rfl

end Calculator
