import Calculator.Proofs.Values
import Calculator.Proofs.WellFormed

/-! Flat expressions.  The passes for signs, products and sums, called one after the other, turn
tokens into a single number exactly when the tokens are numbers with signs and with operators
between them; the number is then the value of the expression that they spell. -/

namespace Calculator

def Signed.factor (s : Signed) : Expression Number .factor :=
  if s.negative then .negated (.atom s.value) else .plain (.atom s.value)

/-- The expression that a chain spells: products and quotients bind more than sums and differences,
and both are taken from the left. -/
def Chain.expression (c : Chain) : Expression Number .sum :=
  c.rest.foldl (fun e s => e.extend s.1 s.2.factor) (.term (.single c.first.factor))

/-- What the passes for signs, products and sums do on their own, one after the other. -/
def reducing (tokens : List Token) : Edit (List Token) := do
  let signed ← Pass.unaryMinus.call tokens
  let scaled ← Pass.foldMultiplicative.call signed
  Pass.foldAdditive.call scaled

theorem result_reducing (tokens : List Token) (env : Environment) :
    (reducing tokens).result env = (reduce tokens, env) := by
  have hsigns : (Pass.unaryMinus.call tokens).result env = (.ok (applySigns tokens), env) := rfl
  have hproducts : (Pass.foldMultiplicative.call (applySigns tokens)).result env =
      (foldProducts (applySigns tokens), env) := rfl
  simp only [reducing, Action.result_bind, hsigns, hproducts, reduce]
  cases foldProducts (applySigns tokens) <;> rfl

/-! ### Expressions of chains -/

theorem Signed.tokens_factor (s : Signed) : s.factor.tokens = s.tokens := by
  obtain ⟨negative, n⟩ := s
  cases negative <;> rfl

theorem Signed.flat_factor (s : Signed) : s.factor.flat = .ok ⟨s, []⟩ := by
  obtain ⟨negative, n⟩ := s
  cases negative <;> rfl

theorem Chain.append_assoc (c : Chain) (op : Operator) (d : Chain) (op' : Operator) (d' : Chain) :
    (c.append op d).append op' d' = c.append op (d.append op' d') := by
  simp [append]

namespace Expression

theorem tokens_extend (e : Expression Number .sum) (op : Operator) (f : Expression Number .factor) :
    (e.extend op f).tokens = e.tokens ++ .sign op.char :: f.tokens := by
  simp [tokens, lexemes_extend, Lexeme.token]

theorem flat_extend (e : Expression Number .sum) (op : Operator) (f : Expression Number .factor) :
    (e.extend op f).flat = (do
      let c ← e.flat
      let d ← f.flat
      .ok (c.append op d)) := by
  cases op with
  | addition op => cases e <;> rfl
  | scaling op =>
    cases e with
    | term t => rfl
    | added e op' t =>
      simp only [extend, flat, bind_assoc, Except.ok_bind, Chain.append_assoc]

end Expression

namespace Chain

theorem restTokens_cons (s : Operator × Signed) (rest : List (Operator × Signed)) :
    restTokens (s :: rest) = .sign s.1.char :: s.2.tokens ++ restTokens rest :=
  List.flatMap_cons

theorem tokens_expression (c : Chain) : c.expression.tokens = c.tokens := by
  have h : ∀ (rest : List (Operator × Signed)) (e : Expression Number .sum),
      (rest.foldl (fun e s => e.extend s.1 s.2.factor) e).tokens = e.tokens ++ restTokens rest := by
    intro rest
    induction rest with
    | nil => exact fun e => (List.append_nil _).symm
    | cons s rest ih =>
      intro e
      rw [List.foldl_cons, ih, Expression.tokens_extend, Signed.tokens_factor, restTokens_cons,
        List.append_assoc]
  rw [expression, h]
  exact congrArg (· ++ restTokens c.rest) c.first.tokens_factor

/-- There are no groups to run in the expression of a chain. -/
theorem flat_expression (c : Chain) : c.expression.flat = .ok c := by
  have h : ∀ (rest : List (Operator × Signed)) (e : Expression Number .sum) (d : Chain),
      e.flat = .ok d →
        (rest.foldl (fun e s => e.extend s.1 s.2.factor) e).flat =
          .ok ⟨d.first, d.rest ++ rest⟩ := by
    intro rest
    induction rest with
    | nil =>
      intro e d hd
      rw [List.append_nil]
      exact hd
    | cons s rest ih =>
      intro e d hd
      have hextend : (e.extend s.1 s.2.factor).flat = .ok (d.append s.1 ⟨s.2, []⟩) := by
        rw [Expression.flat_extend, hd, Signed.flat_factor]
        rfl
      rw [List.foldl_cons, ih _ _ hextend]
      simp [append]
  exact h c.rest _ ⟨c.first, []⟩ c.first.flat_factor

theorem reading_eq_outcome (c : Chain) : c.reading = c.expression.outcome := by
  rw [Expression.outcome, flat_expression]
  rfl

end Chain

/-- An outcome that is a single number, or a failure, without its offsets is so with them. -/
theorem exists_of_tokensOnly_single {x : Except Failure (List Token)} {y : Except Failure Number}
    (h : tokensOnly x = (do let n ← y; .ok [.number n])) :
    ∃ z : Except Failure Number, x = z.map (fun n => [.number n]) ∧
      Except.withoutOffsets id z = y := by
  cases x with
  | error f =>
    cases y with
    | error g =>
      obtain rfl : f.withoutOffset = g := Except.error.inj h
      exact ⟨.error f, rfl, rfl⟩
    | ok n => cases h
  | ok tokens =>
    cases y with
    | error g => cases h
    | ok n =>
      have htokens : withoutOffsets tokens = [.number n] := Except.ok.inj h
      obtain ⟨t, rfl, ht⟩ := List.map_eq_singleton_iff.mp htokens
      cases t with
      | number m =>
        obtain rfl := Token.number.inj ht
        exact ⟨.ok m, rfl, rfl⟩
      | _ => cases ht

/-- Signs, products and sums accept exactly the numbers with at most one minus each and with one
operator between any two.  What they come to is the value of the expression that is spelled, or a
division by zero if a divisor in it is zero. -/
theorem reducing_accepts_chains (tokens : List Token) (env : Environment) :
    (∀ c : Chain, withoutOffsets tokens = c.tokens →
      c.expression.tokens = c.tokens ∧
      (¬c.expression.Overflows → ∃ x : Except Failure Number, c.expression.Decides x ∧
        (reducing tokens).result env = (x.map fun n => [.number n], env))) ∧
    ((∀ c : Chain, withoutOffsets tokens ≠ c.tokens) →
      ∀ n, ((reducing tokens).result env).1 ≠ .ok [.number n]) := by
  rw [result_reducing]
  constructor
  · intro c hc
    refine ⟨c.tokens_expression, fun ho => ?_⟩
    have hreduce : tokensOnly (reduce tokens) = (do let n ← c.reading; .ok [.number n]) := by
      rw [← reduce_withoutOffsets, hc, reduce_tokens]
    obtain ⟨x, hx, hreading⟩ := exists_of_tokensOnly_single hreduce
    refine ⟨x, Expression.Describes.decides ?_ ho, by rw [hx]⟩
    rw [hreading, Chain.reading_eq_outcome]
    exact c.expression.describes_outcome
  · intro hchain n h
    obtain ⟨c, hc⟩ := exists_chain_of_reduce h
    exact hchain c hc

/-- `-6/3 - -2` as numbers and signs with their offsets. -/
def signedQuotient : List Token :=
  [.char '-' (some 0), .number (.int 6), .char '/' (some 2), .number (.int 3), .char '-' (some 5),
    .char '-' (some 7), .number (.int 2)]

def signedQuotientChain : Chain :=
  ⟨⟨true, .int 6⟩, [(.scaling .dividedBy, ⟨false, .int 3⟩), (.addition .minus, ⟨true, .int 2⟩)]⟩

/-- `-6/3 - -2` comes to zero, and with one more minus in it there is no number. -/
theorem reducing_signedQuotient :
    ((reducing signedQuotient).result .empty).1 = .ok [.number (.int 0)] ∧
      ∀ n, ((reducing (.sign '-' :: signedQuotient)).result .empty).1 ≠ .ok [.number n] := by
  constructor
  · have ho : ¬signedQuotientChain.expression.Overflows := by
      rintro ((h | h | ⟨a, b, ha, hb, -, ho⟩) | h | ⟨a, b, ha, hb, ho⟩)
      · exact h
      · exact h
      · obtain rfl := Option.some.inj ha
        obtain rfl := Option.some.inj hb
        cases ho
      · exact h
      · obtain rfl := Option.some.inj ha
        obtain rfl := Option.some.inj hb
        cases ho
    obtain ⟨x, hx, hresult⟩ :=
      ((reducing_accepts_chains signedQuotient .empty).1 signedQuotientChain rfl).2 ho
    rw [hresult, hx.value (.int 0) (by rfl)]
    rfl
  · refine (reducing_accepts_chains (.sign '-' :: signedQuotient) .empty).2 fun c hc => ?_
    obtain ⟨⟨negative, n⟩, rest⟩ := c
    cases negative <;> cases hc

end Calculator
