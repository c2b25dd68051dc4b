import Calculator.Proofs.Evaluation
import Calculator.Proofs.Expression

/-! Reduction of expressions.  The groups of an expression are run innermost first, and each leaves
its value; what is left of the whole is a chain, which comes to the value of the expression unless a
divisor is zero or an operation overflows. -/

namespace Calculator

theorem apply_dividedBy (a b : Number) : Scaling.apply .dividedBy a b = a.div b := by
  cases a with
  | float x => rfl
  | int i =>
    cases b with
    | float y => rfl
    | int j => simp only [Scaling.apply, Number.div, Int.dvd_iff_emod_eq_zero]

theorem perform_scaling (op : Scaling) (a b : Number) :
    op.perform a b =
      if op.refuses b then .error (.at .zeroDivisor (.sign '/'))
      else Failure.ofOverflow (op.apply a b) := by
  cases op with
  | times => rfl
  | dividedBy =>
    rw [apply_dividedBy]
    simp [Scaling.perform, Scaling.char, multiply, divide, Token.sign, Scaling.refuses]

theorem perform_addition (op : Addition) (a b : Number) :
    op.perform a b = Failure.ofOverflow (op.apply a b) := by
  cases op <;> rfl

/-! ### Steps that follow each other -/

namespace Steps

variable {steps : Steps}

/-- Products and quotients on the two sides of a sum or difference do not meet. -/
theorem scale_append_addition (a : Number) (steps : Steps) (op : Addition) (b : Number)
    (steps' : Steps) :
    scale a (steps ++ (.addition op, b) :: steps') = (do
      let q ← scale a steps
      let r ← scale b steps'
      .ok (q.1, q.2 ++ (op, r.1) :: r.2)) := by
  induction steps generalizing a with
  | nil => rfl
  | cons s steps ih =>
    obtain ⟨op' | op', c⟩ := s
    · simp only [List.cons_append, scale, bind_assoc]
      congr 1
      funext n
      exact ih n
    · simp only [List.cons_append, scale, ih c, bind_assoc]
      rfl

def AreScalings (steps : Steps) : Prop := ∀ s ∈ steps, ∃ op, s.1 = .scaling op

theorem AreScalings.tail {s : Operator × Number} (h : AreScalings (s :: steps)) :
    AreScalings steps := fun t ht => h t (List.mem_cons_of_mem _ ht)

/-- Products and quotients leave no sums and differences. -/
theorem AreScalings.eq_nil_of_scale (h : AreScalings steps) {a n : Number}
    {left : List (Addition × Number)} (hs : scale a steps = .ok (n, left)) : left = [] := by
  induction steps generalizing a with
  | nil =>
    cases hs
    rfl
  | cons s steps ih =>
    obtain ⟨op, b⟩ := s
    obtain ⟨op, rfl⟩ := h (op, b) (by simp)
    obtain ⟨m, -, hs⟩ := Except.bind_eq_ok_iff.mp hs
    exact ih h.tail hs

theorem AreScalings.scale_append (h : AreScalings steps) (a : Number) (op : Scaling) (b : Number) :
    scale a (steps ++ [(.scaling op, b)]) = (do
      let q ← scale a steps
      let n ← op.perform q.1 b
      .ok (n, [])) := by
  induction steps generalizing a with
  | nil => rfl
  | cons s steps ih =>
    obtain ⟨op', c⟩ := s
    obtain ⟨op', rfl⟩ := h (op', c) (by simp)
    simp only [List.cons_append, scale, bind_assoc]
    congr 1
    funext n
    exact ih h.tail n

theorem total_append (a : Number) (left : List (Addition × Number)) (op : Addition) (b : Number) :
    total a (left ++ [(op, b)]) = (do let n ← total a left; op.perform n b) := by
  induction left generalizing a with
  | nil => exact bind_pure (op.perform a b)
  | cons s left ih =>
    simp only [List.cons_append, total, bind_assoc]
    congr 1
    funext n
    exact ih n

end Steps

namespace Chain

def append (c : Chain) (op : Operator) (d : Chain) : Chain :=
  ⟨c.first, c.rest ++ (op, d.first) :: d.rest⟩

theorem tokens_append (c : Chain) (op : Operator) (d : Chain) :
    (c.append op d).tokens = c.tokens ++ .sign op.char :: d.tokens := by
  simp [append, tokens, restTokens]

theorem steps_append (c : Chain) (op : Operator) (d : Chain) :
    (c.append op d).steps = c.steps ++ (op, d.first.number) :: d.steps := by
  simp [append, steps]

def ofNumber (n : Number) : Chain := ⟨⟨false, n⟩, []⟩

/-- Products and quotients of signed numbers. -/
def IsProduct (c : Chain) : Prop := c.steps.AreScalings

theorem IsProduct.append_scaling {c : Chain} (h : c.IsProduct) (op : Scaling) (s : Signed) :
    (c.append (.scaling op) ⟨s, []⟩).IsProduct := by
  intro t ht
  rw [steps_append] at ht
  rcases List.mem_append.mp ht with ht | ht
  · exact h t ht
  · exact ⟨op, by rw [List.mem_singleton.mp ht]⟩

end Chain

/-! ### Expressions without groups -/

namespace Expression

variable {l : Level}

/-- The chain that an expression is once all its groups have been run. -/
def flat : {l : Level} → Expression Number l → Except Failure Chain
  | _, atom n => .ok (.ofNumber n)
  | _, group e => do
      let c ← e.flat
      let n ← c.reading
      .ok (.ofNumber n)
  | _, plain p => p.flat
  | _, negated p => do
      let c ← p.flat
      .ok ⟨⟨true, c.first.value⟩, []⟩
  | _, single f => f.flat
  | _, scaled t op f => do
      let c ← t.flat
      let d ← f.flat
      .ok (c.append (.scaling op) d)
  | _, term t => t.flat
  | _, added e op t => do
      let c ← e.flat
      let d ← t.flat
      .ok (c.append (.addition op) d)

/-- The failure is due to a zero divisor or an overflow in the expression. -/
def Blames (e : Expression Number l) (f : Failure) : Prop :=
  f = .at .zeroDivisor (.sign '/') ∧ e.HasZeroDivisor ∨ (∃ o, f = .overflow o) ∧ e.Overflows

/-- A number is the value of the expression, and a failure is due to it. -/
def Describes (e : Expression Number l) : Except Failure Number → Prop
  | .ok n => e.value = some n
  | .error f => e.Blames f

/-- What chains of a level look like. -/
def HasShape : Level → Chain → Prop
  | .sum, _ => True
  | .product, c => c.IsProduct
  | .factor, c => c.rest = []
  | .primary, c => ∃ n, c = .ofNumber n

theorem Blames.mono {l' : Level} {e : Expression Number l} {e' : Expression Number l'}
    {f : Failure} (h : e.Blames f) (hz : e.HasZeroDivisor → e'.HasZeroDivisor)
    (ho : e.Overflows → e'.Overflows) : e'.Blames f :=
  h.imp (And.imp_right hz) (And.imp_right ho)

theorem described_added {e : Expression Number .sum} {t : Expression Number .product} {c d : Chain}
    (he : e.Describes c.reading) (ht : t.Describes d.reading) (hd : d.IsProduct) (op : Addition) :
    (added e op t).Describes (c.append (.addition op) d).reading := by
  have hfirst : (c.append (.addition op) d).first = c.first := rfl
  rw [Chain.reading, Chain.steps_append, hfirst, Steps.scale_append_addition]
  rw [Chain.reading] at he ht
  cases hq : Steps.scale c.first.number c.steps with
  | error f =>
    rw [hq] at he
    exact he.mono .inl .inl
  | ok q =>
    cases hr : Steps.scale d.first.number d.steps with
    | error f =>
      rw [hr] at ht
      exact ht.mono .inr fun h => .inr (.inl h)
    | ok r =>
      obtain ⟨n, left⟩ := q
      obtain ⟨m, left'⟩ := r
      obtain rfl := hd.eq_nil_of_scale hr
      rw [hq] at he
      rw [hr] at ht
      have he : e.Describes (Steps.total n left) := he
      have ht : t.value = some m := ht
      simp only [Except.ok_bind, Steps.total_append]
      cases htotal : Steps.total n left with
      | error f =>
        rw [htotal] at he
        exact he.mono .inl .inl
      | ok k =>
        rw [htotal] at he
        have he : e.value = some k := he
        rw [Except.ok_bind, perform_addition]
        cases ho : op.apply k m with
        | error o => exact .inr ⟨⟨o, rfl⟩, .inr (.inr ⟨k, m, he, ht, by rw [ho]; rfl⟩)⟩
        | ok r =>
          change (added e op t).value = some r
          simp only [value, he, ht, ho, Option.bind_eq_bind, Option.bind_some]
          rfl

/-- A product reads as what its products and quotients come to. -/
theorem reading_of_isProduct {c : Chain} (h : c.IsProduct) :
    c.reading = (do let q ← Steps.scale c.first.number c.steps; .ok q.1) := by
  rw [Chain.reading]
  cases hq : Steps.scale c.first.number c.steps with
  | error f => rfl
  | ok q =>
    obtain ⟨n, left⟩ := q
    obtain rfl := h.eq_nil_of_scale hq
    rfl

theorem described_scaled {t : Expression Number .product} {f : Expression Number .factor}
    {c : Chain} {s : Signed} (ht : t.Describes c.reading) (hc : c.IsProduct)
    (hf : f.value = some s.number) (op : Scaling) :
    (scaled t op f).Describes (c.append (.scaling op) ⟨s, []⟩).reading := by
  have hfirst : (c.append (.scaling op) ⟨s, []⟩).first = c.first := rfl
  rw [reading_of_isProduct (hc.append_scaling op s), Chain.steps_append, hfirst]
  have hsteps : (Chain.mk s []).steps = [] := rfl
  rw [hsteps, Steps.AreScalings.scale_append hc]
  rw [reading_of_isProduct hc] at ht
  cases hq : Steps.scale c.first.number c.steps with
  | error f' =>
    rw [hq] at ht
    exact ht.mono .inl .inl
  | ok q =>
    rw [hq] at ht
    have ht : t.value = some q.1 := ht
    rw [Except.ok_bind, perform_scaling]
    by_cases hr : op.refuses s.number = true
    · rw [if_pos hr]
      exact .inl ⟨rfl, .inr (.inr ⟨s.number, hf, hr⟩)⟩
    · rw [if_neg hr]
      have hr : op.refuses s.number = false := by simpa using hr
      cases ho : op.apply q.1 s.number with
      | error o =>
        exact .inr ⟨⟨o, rfl⟩, .inr (.inr ⟨q.1, s.number, ht, hf, hr, by rw [ho]; rfl⟩)⟩
      | ok r =>
        change (scaled t op f).value = some r
        simp only [value, ht, hf, hr, ho, Option.bind_eq_bind, Option.bind_some]
        rfl

/-- A chain has the shape of its level and comes to the value of the expression, and a failure is
due to it. -/
def IsReduction (e : Expression Number l) : Except Failure Chain → Prop
  | .ok c => HasShape l c ∧ e.Describes c.reading
  | .error f => e.Blames f

section Bind

variable {l' : Level} {e : Expression Number l}

theorem IsReduction.bind {x : Except Failure Chain} (h : e.IsReduction x)
    (e' : Expression Number l')
    (hz : e.HasZeroDivisor → e'.HasZeroDivisor) (ho : e.Overflows → e'.Overflows)
    {g : Chain → Except Failure Chain}
    (hg : ∀ c, HasShape l c → e.Describes c.reading → e'.IsReduction (g c)) :
    e'.IsReduction (x >>= g) := by
  cases x with
  | error f => exact Blames.mono h hz ho
  | ok c => exact hg c h.1 h.2

theorem Describes.bind {x : Except Failure Number} (h : e.Describes x)
    (e' : Expression Number l')
    (hz : e.HasZeroDivisor → e'.HasZeroDivisor) (ho : e.Overflows → e'.Overflows)
    {g : Number → Except Failure Chain}
    (hg : ∀ n, e.value = some n → e'.IsReduction (g n)) :
    e'.IsReduction (x >>= g) := by
  cases x with
  | error f => exact Blames.mono h hz ho
  | ok n => exact hg n h

end Bind

/-- The chain of an expression comes to the value of the expression. -/
theorem isReduction_flat (e : Expression Number l) : e.IsReduction e.flat := by
  induction e with
  | atom n => exact ⟨⟨n, rfl⟩, rfl⟩
  | group e ih =>
    refine ih.bind (group e) id id fun c _ hd => ?_
    refine hd.bind (group e) id id fun n hn => ?_
    exact ⟨⟨n, rfl⟩, hn⟩
  | plain p ih =>
    rw [flat, ← bind_pure p.flat]
    refine ih.bind (plain p) id id fun c hc hd => ?_
    obtain ⟨n, rfl⟩ := hc
    exact ⟨rfl, hd⟩
  | negated p ih =>
    refine ih.bind (negated p) id id fun c hc hd => ?_
    obtain ⟨n, rfl⟩ := hc
    have hp : p.value = some n := hd
    have hvalue : (negated p).value = some n.neg := by rw [value, hp, Option.map_some]
    exact ⟨rfl, hvalue⟩
  | single f ih =>
    rw [flat, ← bind_pure f.flat]
    refine ih.bind (single f) id id fun c hc hd => ?_
    have hrest : c.rest = [] := hc
    refine ⟨?_, hd⟩
    simp [HasShape, Chain.IsProduct, Steps.AreScalings, Chain.steps, hrest]
  | scaled t op f iht ihf =>
    refine iht.bind (scaled t op f) Or.inl Or.inl fun c hc ht => ?_
    refine ihf.bind (scaled t op f) (Or.inr ∘ Or.inl) (Or.inr ∘ Or.inl) fun d hd hf => ?_
    obtain ⟨s, rest⟩ := d
    obtain rfl : rest = [] := hd
    exact ⟨Chain.IsProduct.append_scaling hc op s, described_scaled ht hc hf op⟩
  | term t ih =>
    rw [flat, ← bind_pure t.flat]
    exact ih.bind (term t) id id fun c _ hd => ⟨trivial, hd⟩
  | added e op t ihe iht =>
    refine ihe.bind (added e op t) Or.inl Or.inl fun c _ he => ?_
    refine iht.bind (added e op t) Or.inr (Or.inr ∘ Or.inl) fun d hd ht => ?_
    exact ⟨trivial, described_added he ht hd op⟩

/-- What an expression comes to. -/
def outcome (e : Expression Number l) : Except Failure Number := do
  let c ← e.flat
  c.reading

/-- An expression comes to its value, or fails for a reason that lies in it. -/
theorem describes_outcome (e : Expression Number l) : e.Describes e.outcome := by
  have h := e.isReduction_flat
  rw [outcome]
  cases hc : e.flat with
  | error f =>
    rw [hc] at h
    exact h
  | ok c =>
    rw [hc] at h
    exact h.2

end Expression

/-! ### Plain tokens -/

/-- Whether a token is a number or an operator. -/
def Token.isPlain (t : Token) : Bool := t.isNumber || (isAddition t || isScaling t)

namespace Token

@[simp] theorem isPlain_number (n : Number) : isPlain (.number n) = true := rfl

@[simp] theorem isPlain_sign (op : Operator) : isPlain (.sign op.char) = true := by
  obtain ⟨op⟩ | ⟨op⟩ := op <;> cases op <;> rfl

theorem isPlain_cases {t : Token} (h : t.isPlain = true) :
    (∃ n, t = .number n) ∨ ∃ op : Operator, ∃ p, t = .char op.char p := by
  cases t with
  | number n => exact .inl ⟨n, rfl⟩
  | char c p =>
    obtain ⟨op, hop⟩ := exists_operator (t := .char c p) h
    exact .inr ⟨op, p, by rw [(Token.char.inj hop).1]⟩
  | numeral digits => cases h
  | symbol name => cases h

variable {t : Token}

/-- Only operators are plain characters. -/
theorem isChar_of_isPlain (h : t.isPlain = true) {c : Char} (hc : ∀ op : Operator, op.char ≠ c) :
    t.isChar c = false := by
  obtain ⟨n, rfl⟩ | ⟨op, p, rfl⟩ := isPlain_cases h
  · rfl
  · simp [hc op]

theorem isDigit_of_isPlain (h : t.isPlain = true) : t.isDigit = false := by
  obtain ⟨n, rfl⟩ | ⟨op, p, rfl⟩ := isPlain_cases h
  · rfl
  · rw [isDigit_char]
    obtain ⟨op⟩ | ⟨op⟩ := op <;> cases op <;> rfl

theorem name?_of_isPlain (h : t.isPlain = true) : t.name? = none := by
  obtain ⟨n, rfl⟩ | ⟨op, p, rfl⟩ := isPlain_cases h
  · rfl
  · obtain ⟨op⟩ | ⟨op⟩ := op <;> cases op <;> rfl

end Token

theorem Operator.char_ne {c : Char} (h : c ∉ ['+', '-', '*', '/']) (op : Operator) :
    op.char ≠ c := by
  obtain ⟨op⟩ | ⟨op⟩ := op <;> cases op <;> rintro rfl <;> simp [Scaling.char, Addition.char] at h

def ArePlain (tokens : List Token) : Prop := ∀ t ∈ tokens, t.isPlain = true

namespace ArePlain

variable {tokens : List Token}

theorem noClose (h : ArePlain tokens) : Lacks ')' tokens := fun t ht =>
  Token.isChar_of_isPlain (h t ht) (Operator.char_ne (by decide))

theorem noOpen (h : ArePlain tokens) : Lacks '(' tokens := fun t ht =>
  Token.isChar_of_isPlain (h t ht) (Operator.char_ne (by decide))

theorem append {tokens' : List Token} (h : ArePlain tokens) (h' : ArePlain tokens') :
    ArePlain (tokens ++ tokens') := by
  intro t ht
  rcases List.mem_append.mp ht with ht | ht
  · exact h t ht
  · exact h' t ht

end ArePlain

theorem Signed.arePlain_tokens (s : Signed) : ArePlain s.tokens := by
  intro t ht
  obtain ⟨negative, n⟩ := s
  cases negative
  · rw [List.mem_singleton.mp ht]
    rfl
  · rcases List.mem_cons.mp ht with rfl | ht
    · rfl
    · rw [List.mem_singleton.mp ht]
      rfl

theorem Chain.arePlain_tokens (c : Chain) : ArePlain c.tokens := by
  refine c.first.arePlain_tokens.append fun t ht => ?_
  obtain ⟨s, -, ht⟩ := List.mem_flatMap.mp ht
  rcases List.mem_cons.mp ht with rfl | ht
  · exact Token.isPlain_sign s.1
  · exact s.2.arePlain_tokens t ht

/-- Tokens that are reduced to a single number are plain. -/
theorem arePlain_of_reduce {tokens : List Token} {n : Number}
    (h : reduce tokens = .ok [.number n]) : ArePlain tokens := by
  obtain ⟨c, hc⟩ := exists_chain_of_reduce h
  intro t ht
  have hplain : ∀ t : Token, t.withoutOffset.isPlain = t.isPlain := fun t => by cases t <;> rfl
  have hmem : t.withoutOffset ∈ c.tokens := hc ▸ List.mem_map_of_mem ht
  exact (hplain t).symm.trans (c.arePlain_tokens _ hmem)

/-! ### Runs on plain tokens -/

theorem mergeDigits_of_not_isDigit {tokens : List Token} (h : ∀ t ∈ tokens, t.isDigit = false) :
    mergeDigits tokens = tokens := by
  have hfold : ∀ output, tokens.foldl joinDigits output = tokens.reverse ++ output := by
    induction tokens with
    | nil => exact fun _ => rfl
    | cons t tokens ih =>
      intro output
      rw [List.foldl_cons, joinDigits_of_not_isDigit (h t (by simp)),
        ih fun u hu => h u (List.mem_cons_of_mem _ hu)]
      simp
  rw [mergeDigits, hfold, List.append_nil, List.reverse_reverse]

theorem readNumbers_of_not_isDigit {tokens : List Token} (h : ∀ t ∈ tokens, t.isDigit = false) :
    readNumbers tokens = .ok tokens := by
  rw [readNumbers, mergeDigits_of_not_isDigit h]
  induction tokens with
  | nil => rfl
  | cons t tokens ih =>
    rw [convertNumerals_cons, readDigits_of_not_isDigit (h t (by simp)),
      ih fun u hu => h u (List.mem_cons_of_mem _ hu)]
    rfl

/-- Plain tokens are left as they are by what is done before plain arithmetic. -/
def KeepsPlain (prepare : List Token → List Token) : Prop :=
  ∀ tokens, ArePlain tokens → prepare tokens = tokens

theorem keepsPlain_id : KeepsPlain id := fun _ _ => rfl

theorem keepsPlain_resolveNames (env : Environment) : KeepsPlain (resolveNames env) :=
  fun _ h => resolveNames_of_not_isName env fun t ht => by
    simp [Token.isName, Token.name?_of_isPlain (h t ht)]

theorem evaluateWithin_of_arePlain {prepare : List Token → List Token} (hp : KeepsPlain prepare)
    (depth : Nat) {tokens : List Token} (h : ArePlain tokens) :
    evaluateWithin prepare (depth + 1) tokens = reduce tokens := by
  rw [evaluateWithin, hp tokens h, arithmetic,
    readNumbers_of_not_isDigit fun t ht => Token.isDigit_of_isPlain (h t ht), Except.ok_bind,
    groups_of_noClose h.noClose]
  rfl

/-- A run on the tokens of a chain gives the number that the chain comes to. -/
theorem evaluateWithin_chain {prepare : List Token → List Token} (hp : KeepsPlain prepare)
    (depth : Nat) (c : Chain) :
    evaluateWithin prepare (depth + 1) c.tokens = (do let n ← c.reading; .ok [.number n]) := by
  rw [evaluateWithin_of_arePlain hp depth c.arePlain_tokens, reduce_tokens]

/-! ### Groups -/

section Groups

variable {inner : List Token → Except Failure (List Token)}

/-- The groups of an expression leave its chain, when their runs reduce chains. -/
theorem groups_tokens
    (hinner : ∀ c : Chain, inner c.tokens = (do let n ← c.reading; .ok [.number n]))
    {l : Level} (e : Expression Number l) (output rest : List Token) :
    (groupPlan output (e.tokens ++ rest)).carryOut inner = (do
      let c ← e.flat
      (groupPlan (c.tokens.reverse ++ output) rest).carryOut inner) := by
  induction e generalizing output rest with
  | atom n => rfl
  | group e ih =>
    have htokens : (Expression.group e).tokens ++ rest =
        .sign '(' :: (e.tokens ++ .sign ')' :: rest) := by
      simp [Expression.tokens, Expression.lexemes, Lexeme.token]
    rw [htokens, groups_char (by decide), ih, Expression.flat, bind_assoc]
    congr 1
    funext c
    rw [groups_close c.arePlain_tokens.noOpen.reverse rfl rfl, List.reverse_reverse, hinner,
      bind_assoc, bind_assoc]
    rfl
  | plain p ih => exact ih output rest
  | negated p ih =>
    have htokens : (Expression.negated p).tokens ++ rest = .sign '-' :: (p.tokens ++ rest) := rfl
    rw [htokens, groups_char (by decide), ih, Expression.flat, bind_assoc]
    have hp := p.isReduction_flat
    cases hc : p.flat with
    | error f => rfl
    | ok c =>
      rw [hc] at hp
      obtain ⟨n, rfl⟩ := hp.1
      rfl
  | single f ih => exact ih output rest
  | scaled t op f iht ihf =>
    have htokens : (Expression.scaled t op f).tokens ++ rest =
        t.tokens ++ .sign op.char :: (f.tokens ++ rest) := by
      simp [Expression.tokens, Expression.lexemes, Lexeme.token]
    rw [htokens, iht, Expression.flat, bind_assoc]
    congr 1
    funext c
    rw [groups_char (by cases op <;> decide), ihf, bind_assoc]
    congr 1
    funext d
    rw [Except.ok_bind, Chain.tokens_append]
    simp
  | term t ih => exact ih output rest
  | added e op t ihe iht =>
    have htokens : (Expression.added e op t).tokens ++ rest =
        e.tokens ++ .sign op.char :: (t.tokens ++ rest) := by
      simp [Expression.tokens, Expression.lexemes, Lexeme.token]
    rw [htokens, ihe, Expression.flat, bind_assoc]
    congr 1
    funext c
    rw [groups_char (by cases op <;> decide), iht, bind_assoc]
    congr 1
    funext d
    rw [Except.ok_bind, Chain.tokens_append]
    simp

/-- Tokens that are read as those of an expression come to what the expression does. -/
theorem arithmetic_eq_outcome
    (hinner : ∀ c : Chain, inner c.tokens = (do let n ← c.reading; .ok [.number n]))
    {tokens : List Token} {e : Expression Number .sum} (h : readNumbers tokens = .ok e.tokens) :
    arithmetic inner tokens = (do let n ← e.outcome; .ok [.number n]) := by
  have hgroups := groups_tokens hinner e [] []
  rw [List.append_nil] at hgroups
  rw [arithmetic, h, Except.ok_bind, hgroups, Expression.outcome, bind_assoc, bind_assoc]
  congr 1
  funext c
  rw [List.append_nil, groupPlan, Plan.carryOut_done, List.reverse_reverse]
  exact reduce_tokens c

end Groups

end Calculator
