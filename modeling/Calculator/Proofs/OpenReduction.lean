import Calculator.Proofs.Inheritance
import Calculator.Proofs.Remnants
import Calculator.Proofs.Survival

/-! Reduction of rows.  The passes that reduce tokens know nothing of remnants, and yet they make of
the tokens of a row those of what is left of it: each fold comes to the last token of a remnant as
the left operand of what follows, and each operator behind it meets the first token of the next. -/

namespace Calculator

/-! ### Operands -/

@[simp] theorem operand_letter (x : Letter) : operand (.sign x.char) = .error x.failure := by
  have hopen : (Token.sign x.char).isChar '(' = false := x.isChar_sign (by decide)
  rw [Letter.failure, Token.sign, operand]
  · rw [← Token.sign, if_neg (by simp [hopen]), x.name?_sign]
  · simp

/-- A letter that is left alone is blamed as well. -/
theorem finalValue_letter (x : Letter) : finalValue [.sign x.char] = .error x.failure := by
  rw [Token.sign, finalValue]
  · rw [← Token.sign, x.name?_sign]
    rfl
  · simp

/-- No letter is blamed for tokens that are more than one. -/
theorem finalValue_ne_failure (t u : Token) (rest : List Token) (x : Letter) :
    finalValue (t :: u :: rest) ≠ .error x.failure := by
  have hvalue : finalValue (t :: u :: rest) = (do throw (← notReduced (t :: u :: rest))) := by
    cases t <;> rfl
  have hreduced : ∀ f,
      notReduced (t :: u :: rest) = .error f ∨ notReduced (t :: u :: rest) = .ok f →
        f ≠ x.failure := by
    rintro f h rfl
    simp only [notReduced, Printer.tokens] at h
    split at h
    · rcases h with h | h <;> cases h
    · split at h
      · rcases h with h | h <;> cases h
      · rcases h with h | h <;> cases h
  rw [hvalue]
  intro h
  rcases Except.bind_eq_error_iff.mp h with h | ⟨f, hf, h⟩
  · exact hreduced _ (.inl h) rfl
  · exact hreduced f (.inr hf) (Except.error.inj h)

/-- The sign of an operation is not the letter that it meets. -/
theorem isOperator_letter (x : Letter) :
    isAddition (.sign x.char) = false ∧ isScaling (.sign x.char) = false := by
  have hplain := x.isPlain_sign
  simp only [Token.isPlain, Bool.or_eq_false_iff] at hplain
  exact hplain.2

namespace Remnant

theorem operand_lastToken (a : Remnant) : operand a.lastToken = a.last := by
  match a with
  | number _ => rfl
  | letter _ x none => exact operand_letter x
  | letter _ _ (some _) => rfl

/-- What an operation meets first in a remnant; it is all of the remnant if it is a number. -/
theorem exists_head (a : Remnant) : ∃ t tail, a.tokens = t :: tail ∧ operand t = a.first ∧
    isScaling t = false ∧ ∀ n, a.first = .ok n → t = .number n ∧ tail = [] := by
  match a with
  | number n =>
    refine ⟨.number n, [], rfl, rfl, rfl, fun m hm => ?_⟩
    obtain rfl := Except.ok.inj hm
    exact ⟨rfl, rfl⟩
  | letter 0 x none =>
    exact ⟨_, _, rfl, operand_letter x, (isOperator_letter x).2, fun _ hm => by cases hm⟩
  | letter 0 x (some _) =>
    exact ⟨_, _, rfl, operand_letter x, (isOperator_letter x).2, fun _ hm => by cases hm⟩
  | letter (k + 1) x behind =>
    exact ⟨_, _, tokens_letter_succ k x behind, rfl, rfl, fun _ hm => by cases hm⟩

end Remnant

/-! ### Signs -/

/-- A character goes on as it is unless it is a minus that is taken for a sign. -/
theorem signsFrom_char {afterNumber : Bool} {c : Char} {tokens : List Token}
    (h : c = '-' → afterNumber = false → ∀ n rest, tokens ≠ .number n :: rest) :
    signsFrom afterNumber (.sign c :: tokens) = .sign c :: signsFrom false tokens := by
  rw [signsFrom.eq_def]
  cases tokens with
  | nil => rfl
  | cons t tokens =>
    cases t with
    | number n =>
      have hsign : c = '-' → afterNumber = true := fun hc =>
        Bool.eq_true_of_not_eq_false fun ha => h hc ha n tokens rfl
      simpa [Token.sign, Token.isNumber] using hsign
    | _ => rfl

/-- Whether a number stands last. -/
def Remnant.endsInNumber : Remnant → Bool
  | number _ => true
  | letter _ _ behind => behind.isSome

theorem signsFrom_remnant (a : Remnant) (rest : List Token) :
    signsFrom false (a.tokens ++ rest) = a.tokens ++ signsFrom a.endsInNumber rest := by
  have hletter : ∀ (x : Letter) tokens,
      signsFrom false (.sign x.char :: tokens) = .sign x.char :: signsFrom false tokens :=
    fun x _ => signsFrom_char fun hc => absurd hc (x.char_ne (by decide))
  cases a with
  | number n => exact signsFrom_number false n rest
  | letter k x behind =>
    induction k with
    | zero =>
      cases behind with
      | none => exact hletter x rest
      | some n =>
        have hnumber : signsFrom false (.sign x.char :: .number n :: rest) =
            .sign x.char :: .number n :: signsFrom true rest := by
          rw [hletter, signsFrom_number]
        exact hnumber
    | succ k ih =>
      -- what stands behind a minus here is another minus or the letter
      have hhead : ∀ n tail, (Remnant.letter k x behind).tokens ++ rest ≠ .number n :: tail := by
        cases k with
        | zero => cases behind <;> exact fun n tail h => by cases h
        | succ k =>
          rw [Remnant.tokens_letter_succ]
          exact fun n tail h => by cases h
      rw [Remnant.tokens_letter_succ, List.cons_append, signsFrom_char fun _ _ => hhead, ih]
      rfl

theorem signsFrom_part (p : Part) (rest : List Token) :
    signsFrom false (p.tokens ++ rest) =
      p.signed.tokens ++ signsFrom p.signed.endsInNumber rest := by
  obtain ⟨negative, a⟩ := p
  cases negative with
  | false => exact signsFrom_remnant a rest
  | true =>
    cases a with
    | number n => exact signsFrom_minus n rest
    | letter k x behind =>
      have hsigned : Part.tokens ⟨true, .letter k x behind⟩ =
          (Remnant.letter (k + 1) x behind).tokens := (Remnant.tokens_letter_succ k x behind).symm
      rw [hsigned]
      exact signsFrom_remnant _ rest

def stepTokens (steps : List (Operator × Remnant)) : List Token :=
  steps.flatMap fun s => .sign s.1.char :: s.2.tokens

namespace Remnant

theorem eq_of_absorb? {a b : Remnant} {op : Operator} {p : Part} (h : a.absorb? op p = some b) :
    ∃ k x n, a = letter k x none ∧ op = .addition .minus ∧ p = ⟨false, number n⟩ ∧
      b = letter k x (some n.neg) := by
  rw [absorb?.eq_def] at h
  split at h
  · exact ⟨_, _, _, rfl, rfl, rfl, (Option.some.inj h).symm⟩
  · cases h

/-- An operator that is not absorbed is no sign. -/
theorem ne_number_of_absorb? {a : Remnant} {op : Operator} {p : Part} (h : a.absorb? op p = none)
    (hop : op.char = '-') (ha : a.endsInNumber = false) (more : List Token) (n : Number)
    (rest : List Token) : p.tokens ++ more ≠ .number n :: rest := by
  obtain rfl : op = .addition .minus := by
    rcases op with op | op <;> cases op <;> first | rfl | cases hop
  obtain ⟨negative, b⟩ := p
  match a, ha with
  | letter k x none, _ =>
    cases negative with
    | true => exact fun h => by cases h
    | false =>
      match b with
      | number m => cases h
      | letter 0 y none | letter 0 y (some m) => exact fun h => by cases h
      | letter (j + 1) y behind =>
        intro hnumber
        rw [Part.tokens, if_neg (by simp), tokens_letter_succ] at hnumber
        cases hnumber

/-- The signs of the parts behind a remnant are applied as those of their tokens are. -/
theorem tokens_attach (a : Remnant) (rest : List (Operator × Part)) :
    a.tokens ++ signsFrom a.endsInNumber (partTokens rest) =
      (a.attach rest).1.tokens ++ stepTokens (a.attach rest).2 := by
  induction rest generalizing a with
  | nil => simp [partTokens, signsFrom, attach, stepTokens]
  | cons s rest ih =>
    obtain ⟨op, p⟩ := s
    have htokens : partTokens ((op, p) :: rest) = .sign op.char :: (p.tokens ++ partTokens rest) :=
      rfl
    rw [htokens, attach]
    cases habsorb : a.absorb? op p with
    | some b =>
      obtain ⟨k, x, n, rfl, rfl, rfl, rfl⟩ := eq_of_absorb? habsorb
      have hb := ih (letter k x (some n.neg))
      rw [tokens_letter_some, List.append_assoc] at hb
      rw [← hb]
      exact congrArg _ (signsFrom_minus n _)
    | none =>
      have hp := ih p.signed
      rw [signsFrom_char fun hc ha => ne_number_of_absorb? habsorb hc ha _, signsFrom_part, hp]
      simp [stepTokens]

end Remnant

/-! ### Folds -/

namespace Remnant

theorem lastToken_withLast (a : Remnant) (v : Number) : (a.withLast v).lastToken = .number v := by
  cases a <;> rfl

/-- A number takes the place of the last one. -/
theorem front_withLast {a : Remnant} {m : Number} (h : a.last = .ok m) (v : Number) :
    (a.withLast v).front = a.front := by
  match a, h with
  | number _, _ | letter _ _ (some _), _ => rfl

end Remnant

section Fold

variable {isSign : Token → Bool} {operation : Number → Token → Number → Except Failure Number}

variable (isSign operation) in
/-- The fold leaves the remnant as it is, and goes on with its last token as the left operand of
what follows. -/
def Leaves (a : Remnant) : Prop :=
  ∀ rest, fold isSign operation (a.tokens ++ rest) =
    (do let folded ← foldFrom isSign operation a.lastToken rest; .ok (a.front ++ folded))

/-- A fold goes over tokens that are no signs. -/
theorem fold_of_not_sign {front : List Token} {left : Token}
    (h : ∀ t ∈ (front ++ [left]).tail, isSign t = false) (rest : List Token) :
    fold isSign operation (front ++ left :: rest) =
      (do let folded ← foldFrom isSign operation left rest; .ok (front ++ folded)) := by
  induction front with
  | nil => exact (bind_pure _).symm
  | cons t front ih =>
    have hfront := ih fun u hu => h u (List.mem_of_mem_tail hu)
    obtain ⟨u, tail, htail⟩ : ∃ u tail, front ++ left :: rest = u :: tail := by
      cases front <;> exact ⟨_, _, rfl⟩
    have hu : isSign u = false := by
      cases front with
      | nil =>
        obtain ⟨rfl, -⟩ := List.cons.inj htail
        exact h _ (by simp)
      | cons v front =>
        obtain ⟨rfl, -⟩ := List.cons.inj htail
        exact h _ (by simp)
    rw [htail, fold_cons] at hfront
    rw [List.cons_append, htail, fold_cons, foldFrom_cons_of_not_sign operation hu, hfront]
    simp [bind_assoc]

/-- An operation between remnants is one between the tokens that meet. -/
theorem Leaves.operate {a : Remnant} (ha : Leaves isSign operation a)
    (hv : ∀ v, Leaves isSign operation (a.withLast v)) {c : Char} (hs : isSign (.sign c) = true)
    (b : Remnant) (more : List Token) :
    fold isSign operation (a.tokens ++ .sign c :: (b.tokens ++ more)) =
      (do let d ← a.operate (fun m n => operation m (.sign c) n) b
          fold isSign operation (d.tokens ++ more)) := by
  obtain ⟨t, tail, hb, hfirst, -, hnumber⟩ := b.exists_head
  rw [ha, hb, List.cons_append, foldFrom_cons_of_sign operation hs, combine,
    a.operand_lastToken, hfirst, Remnant.operate]
  cases hlast : a.last with
  | error f => rfl
  | ok m =>
    cases hn : b.first with
    | error f => rfl
    | ok n =>
      obtain ⟨-, rfl⟩ := hnumber n hn
      cases hperform : operation m (.sign c) n with
      | error f => simp only [Except.ok_bind, hperform]; rfl
      | ok v =>
        have hrest := hv v more
        rw [Remnant.lastToken_withLast, Remnant.front_withLast hlast] at hrest
        simp only [Except.ok_bind, hperform, hrest, List.nil_append]

end Fold

theorem leaves_scaling (a : Remnant) : Leaves isScaling multiply a := by
  have hletter : ∀ x : Letter, isScaling (.sign x.char) = false := fun x => (isOperator_letter x).2
  have htokens : ∀ t ∈ a.tokens, isScaling t = false := by
    intro t ht
    match a with
    | .number n =>
      obtain rfl := List.mem_singleton.mp ht
      rfl
    | .letter k x none =>
      rcases List.mem_append.mp ht with ht | ht
      · rw [List.eq_of_mem_replicate ht]
        rfl
      · rw [List.mem_singleton.mp ht]
        exact hletter x
    | .letter k x (some n) =>
      rcases List.mem_append.mp ht with ht | ht
      · rcases List.mem_append.mp ht with ht | ht
        · rw [List.eq_of_mem_replicate ht]
          rfl
        · rw [List.mem_singleton.mp ht]
          exact hletter x
      · rw [List.mem_singleton.mp ht]
        rfl
  intro rest
  rw [Remnant.tokens, List.append_assoc]
  exact fold_of_not_sign (fun t ht => htokens t (List.mem_of_mem_tail ht)) rest

/-- With no more than one minus in it, no minus of a remnant has anything on its left. -/
theorem leaves_addition {a : Remnant} (h : a.unstacked = .ok a) : Leaves isAddition addUp a := by
  have hletter : ∀ x : Letter, isAddition (.sign x.char) = false := fun x => (isOperator_letter x).1
  intro rest
  rw [Remnant.tokens, List.append_assoc]
  refine fold_of_not_sign (fun t ht => ?_) rest
  match a, h with
  | .number n, _ | .letter 0 x none, _ => cases ht
  | .letter 0 x (some n), _ =>
    rw [List.mem_singleton.mp ht]
    rfl
  | .letter 1 x none, _ =>
    rw [List.mem_singleton.mp ht]
    exact hletter x
  | .letter 1 x (some n), _ =>
    rcases List.mem_cons.mp ht with rfl | ht
    · exact hletter x
    · rw [List.mem_singleton.mp ht]
      rfl

def additionTokens (left : List (Addition × Remnant)) : List Token :=
  stepTokens (left.map fun s => (.addition s.1, s.2))

namespace Remnant

theorem fold_scale (a : Remnant) (steps : List (Operator × Remnant)) :
    fold isScaling multiply (a.tokens ++ stepTokens steps) =
      (do let (b, left) ← a.scale steps; .ok (b.tokens ++ additionTokens left)) := by
  induction steps generalizing a with
  | nil =>
    have hnil := leaves_scaling a []
    exact hnil.trans (congrArg Except.ok (List.append_nil _).symm)
  | cons s steps ih =>
    obtain ⟨op, b⟩ := s
    have htokens : stepTokens ((op, b) :: steps) =
        .sign op.char :: (b.tokens ++ stepTokens steps) :=
      rfl
    rw [htokens]
    cases op with
    | scaling op =>
      rw [Operator.char_scaling, (leaves_scaling a).operate (fun v => leaves_scaling _)
        (isScaling_scaling op), scale, bind_assoc]
      exact bind_congr fun c => ih c
    | addition op =>
      obtain ⟨t, tail, hb, -, ht, -⟩ := b.exists_head
      have hrest := ih b
      rw [hb, List.cons_append, fold_cons] at hrest
      rw [Operator.char_addition, leaves_scaling a, hb, List.cons_append,
        foldFrom_cons_of_not_sign multiply (isScaling_addition op),
        foldFrom_cons_of_not_sign multiply ht, hrest, scale]
      simp [bind_assoc, tokens, additionTokens, stepTokens]

theorem unstacked_withLast {a : Remnant} (h : a.unstacked = .ok a) (v : Number) :
    (a.withLast v).unstacked = .ok (a.withLast v) := by
  match a, h with
  | number _, _ | letter 0 _ _, _ | letter 1 _ _, _ => rfl

theorem exists_withLast {perform : Number → Number → Except Failure Number} {a b c : Remnant}
    (h : a.operate perform b = .ok c) : ∃ v, c = a.withLast v := by
  obtain ⟨m, -, h⟩ := Except.bind_eq_ok_iff.mp h
  obtain ⟨n, -, h⟩ := Except.bind_eq_ok_iff.mp h
  obtain ⟨v, -, h⟩ := Except.bind_eq_ok_iff.mp h
  exact ⟨v, (Except.ok.inj h).symm⟩

theorem fold_total {a : Remnant} (h : a.unstacked = .ok a) (left : List (Addition × Remnant)) :
    fold isAddition addUp (a.tokens ++ additionTokens left) =
      (do let b ← a.total left; .ok b.tokens) := by
  induction left generalizing a with
  | nil => exact leaves_addition h []
  | cons s left ih =>
    obtain ⟨op, b⟩ := s
    have htokens : additionTokens ((op, b) :: left) =
        .sign op.char :: (b.tokens ++ additionTokens left) := rfl
    rw [htokens, (leaves_addition h).operate (fun v => leaves_addition (unstacked_withLast h v))
      (isAddition_addition op), total, bind_assoc]
    refine Except.bind_congr_of_ok fun c hc => ih ?_
    obtain ⟨v, rfl⟩ := exists_withLast hc
    exact unstacked_withLast h v

theorem fold_unstacked (a : Remnant) (left : List (Addition × Remnant)) :
    fold isAddition addUp (a.tokens ++ additionTokens left) = (do
      let b ← a.unstacked
      let c ← b.total left
      .ok c.tokens) := by
  match a with
  | number n => exact fold_total (a := number n) rfl left
  | letter 0 x behind => exact fold_total (a := letter 0 x behind) rfl left
  | letter 1 x behind => exact fold_total (a := letter 1 x behind) rfl left
  | letter (k + 2) x behind =>
    obtain ⟨t, tail, ht, -⟩ := (letter k x behind).exists_head
    have hminus : isAddition (.sign '-') = true := rfl
    rw [tokens_letter_succ, tokens_letter_succ, ht, List.cons_append, List.cons_append, fold_cons,
      List.cons_append, foldFrom_cons_of_sign addUp hminus]
    rfl

end Remnant

/-- What is left of the tokens of a row is what is left of the row. -/
theorem reduce_row (r : Row) : reduce r.tokens = (do let a ← r.remnant; .ok a.tokens) := by
  have hsigns : applySigns r.tokens = (r.first.signed.attach r.rest).1.tokens ++
      stepTokens (r.first.signed.attach r.rest).2 := by
    rw [applySigns, Row.tokens, signsFrom_part, Remnant.tokens_attach]
  rw [reduce, hsigns, foldProducts_eq_fold, Remnant.fold_scale, Row.remnant]
  simp only [bind_assoc]
  refine bind_congr fun q => ?_
  rw [Except.ok_bind, foldSums_eq_fold]
  exact Remnant.fold_unstacked _ _

/-! ### Letters of a row -/

/-- A letter that the reduction of some tokens blames is one of them. -/
theorem mem_of_reduce_eq_failure {tokens : List Token} {x : Letter}
    (h : reduce tokens = .error x.failure) : .sign x.char ∈ tokens := by
  have H : Inherited (fun t => ∀ y : Letter, t = .sign y.char → .sign y.char ∈ tokens)
      fun f => ∀ y : Letter, f = y.failure → .sign y.char ∈ tokens :=
    { number := by intro n y hy; cases hy
      joined := by intro s t a b _ _ _ _ y hy; cases hy
      unreadable := by intro t digits f _ _ _ y hy; cases hy
      blamed := by
        intro t cause ht _ y hy
        obtain ⟨-, ht'⟩ := EvaluationError.mk.inj (Failure.evaluation.inj hy)
        exact ht y (Option.some.inj ht')
      empty := by intro y hy; cases hy
      overflow := by intro o y hy; cases hy
      unwritable := by intro y hy; cases hy }
  have htokens : ∀ t ∈ tokens, ∀ y : Letter, t = .sign y.char → .sign y.char ∈ tokens := by
    rintro t ht y rfl
    exact ht
  have hreduce := (H.foldProducts (H.applySigns htokens)).bind fun scaled hs => H.foldSums hs
  change Meets _ _ (reduce tokens) at hreduce
  rw [h] at hreduce
  exact hreduce x rfl

namespace Expression

variable {l : Level}

theorem exists_single {p : Expression Standing .primary} {r : Row} (h : p.row = .ok r) :
    ∃ a, r = .single a := by
  cases p with
  | atom a => exact ⟨_, (Except.ok.inj h).symm⟩
  | group e =>
    obtain ⟨r', -, h⟩ := Except.bind_eq_ok_iff.mp h
    obtain ⟨a, -, h⟩ := Except.bind_eq_ok_iff.mp h
    exact ⟨a, (Except.ok.inj h).symm⟩

/-- A minus before what a primary leaves is its sign. -/
theorem tokens_negated {p : Expression Standing .primary} {r : Row} (h : p.row = .ok r) :
    r.negated.tokens = .sign '-' :: r.tokens := by
  obtain ⟨a, rfl⟩ := exists_single h
  rfl

theorem tokens_remnant (a : Standing) : a.remnant.tokens = [a.token] := by cases a <;> rfl

theorem mem_append {r r' : Row} {op : Operator} {x : Letter} :
    .sign x.char ∈ (r.append op r').tokens ↔
      .sign x.char ∈ r.tokens ∨ .sign x.char ∈ r'.tokens := by
  have hop : Token.sign x.char ≠ .sign op.char := by
    intro h
    have hplain := x.isPlain_sign
    rw [h, Token.isPlain_sign] at hplain
    cases hplain
  rw [Row.tokens_append, List.mem_append, List.mem_cons, or_iff_right hop]

/-- The runs of its groups keep the letters of an expression. -/
theorem mem_row {e : Expression Standing l} {r : Row} (h : e.row = .ok r) (x : Letter) :
    .sign x.char ∈ r.tokens ↔ e.Mentions x := by
  induction e generalizing r with
  | atom a =>
    obtain rfl := Except.ok.inj h
    rw [Row.tokens_single, tokens_remnant, Mentions, lexemes, List.mem_singleton,
      List.mem_singleton, Lexeme.atom.injEq]
    cases a with
    | number n => simp [Standing.token, Token.sign]
    | unbound y =>
      rw [Standing.token, Token.sign, Token.sign, Token.char.injEq, Standing.unbound.injEq,
        and_iff_left rfl]
      exact ⟨fun hchar => by rw [Letter.mk.injEq, hchar], fun hx => by rw [hx]⟩
  | group e ih =>
    obtain ⟨r', hr', h⟩ := Except.bind_eq_ok_iff.mp h
    obtain ⟨a, ha, h⟩ := Except.bind_eq_ok_iff.mp h
    obtain rfl := Except.ok.inj h
    have hreduce : reduce r'.tokens = .ok a.tokens := by
      rw [reduce_row, ha]
      rfl
    rw [Row.tokens_single, mentions_group, ← ih hr']
    constructor
    · intro hx
      rcases mem_of_mem_reduce hreduce hx with hx | hnumber
      · exact hx
      · cases hnumber
    · exact fun hx => mem_reduce x.isPlain_sign hx hreduce
  | plain p ih => exact ih h
  | negated p ih =>
    obtain ⟨r', hr', h⟩ := Except.bind_eq_ok_iff.mp h
    obtain rfl := Except.ok.inj h
    rw [tokens_negated hr', mentions_negated, ← ih hr', List.mem_cons, or_iff_right]
    exact fun hx => x.char_ne (c := '-') (by decide) (Token.char.inj hx).1
  | single f ih => exact ih h
  | scaled t op f iht ihf =>
    obtain ⟨r₁, h₁, h⟩ := Except.bind_eq_ok_iff.mp h
    obtain ⟨r₂, h₂, h⟩ := Except.bind_eq_ok_iff.mp h
    obtain rfl := Except.ok.inj h
    rw [mem_append, iht h₁, ihf h₂, mentions_scaled]
  | term t ih => exact ih h
  | added e op t ihe iht =>
    obtain ⟨r₁, h₁, h⟩ := Except.bind_eq_ok_iff.mp h
    obtain ⟨r₂, h₂, h⟩ := Except.bind_eq_ok_iff.mp h
    obtain rfl := Except.ok.inj h
    rw [mem_append, ihe h₁, iht h₂, mentions_added]

theorem mentions_of_remnant {e : Expression Standing l} {r : Row} (hr : e.row = .ok r) {x : Letter}
    (h : r.remnant = .error x.failure) : e.Mentions x := by
  have hreduce : reduce r.tokens = .error x.failure := by
    rw [reduce_row, h]
    rfl
  exact (mem_row hr x).mp (mem_of_reduce_eq_failure hreduce)

/-- The letter that a run of a group blames is one of the expression. -/
theorem mentions_of_row {e : Expression Standing l} {x : Letter} (h : e.row = .error x.failure) :
    e.Mentions x := by
  induction e with
  | atom a => cases h
  | group e ih =>
    rw [mentions_group]
    rcases Except.bind_eq_error_iff.mp h with h | ⟨r, hr, h⟩
    · exact ih h
    rcases Except.bind_eq_error_iff.mp h with h | ⟨a, -, h⟩
    · exact mentions_of_remnant hr h
    · cases h
  | plain p ih => exact ih h
  | negated p ih =>
    rcases Except.bind_eq_error_iff.mp h with h | ⟨r, -, h⟩
    · exact mentions_negated.mpr (ih h)
    · cases h
  | single f ih => exact ih h
  | scaled t op f iht ihf =>
    rw [mentions_scaled]
    rcases Except.bind_eq_error_iff.mp h with h | ⟨r, -, h⟩
    · exact .inl (iht h)
    rcases Except.bind_eq_error_iff.mp h with h | ⟨r', -, h⟩
    · exact .inr (ihf h)
    · cases h
  | term t ih => exact ih h
  | added e op t ihe iht =>
    rw [mentions_added]
    rcases Except.bind_eq_error_iff.mp h with h | ⟨r, -, h⟩
    · exact .inl (ihe h)
    rcases Except.bind_eq_error_iff.mp h with h | ⟨r', -, h⟩
    · exact .inr (iht h)
    · cases h

/-- Only letters of an expression are blamed for it. -/
theorem Exposes.mentions {e : Expression Standing l} {x : Letter} (h : e.Exposes x) :
    e.Mentions x := by
  rcases h with h | h
  · rcases Except.bind_eq_error_iff.mp h with h | ⟨r, hr, h⟩
    · exact mentions_of_row h
    · exact mentions_of_remnant hr h
  · obtain ⟨r, hr, h⟩ := Except.bind_eq_ok_iff.mp h
    rw [← mem_row hr]
    have hreduce : reduce r.tokens = .ok [.sign x.char] := by
      rw [reduce_row, h]
      rfl
    rcases mem_of_mem_reduce hreduce (List.mem_singleton_self _) with hx | hnumber
    · exact hx
    · cases hnumber

end Expression

end Calculator
