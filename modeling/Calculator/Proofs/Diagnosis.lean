import Calculator.Proofs.OpenRuns
import Calculator.Proofs.Sessions

/-! Diagnosis of letters that are not bound.  A line with such a letter has no value, as no
operation takes a letter away.  The letter is blamed for the line when it is the first that an
operation meets, or when it alone is left; otherwise an operation on numbers has failed before, or a
minus stands where no operation finds a number. -/

namespace Calculator

/-! ### What is left of a line -/

theorem Letter.eq_of_failure {x y : Letter} (h : x.failure = y.failure) : x = y := by
  obtain ⟨-, htoken⟩ := EvaluationError.mk.inj (Failure.evaluation.inj h)
  obtain ⟨hchar, -⟩ := Token.char.inj (Option.some.inj htoken)
  exact Letter.mk.injEq .. ▸ hchar

/-- A letter is blamed for what is left only when it is all that is left. -/
theorem Remnant.finalValue_eq_failure_iff {a : Remnant} {x : Letter} :
    finalValue a.tokens = .error x.failure ↔ a = .letter 0 x none := by
  constructor
  · intro h
    match a with
    | .number n => cases h
    | .letter 0 y none =>
      rw [tokens_letter_zero, finalValue_letter] at h
      rw [Letter.eq_of_failure (Except.error.inj h)]
    | .letter 0 y (some n) => exact absurd h (finalValue_ne_failure _ _ _ x)
    | .letter (k + 1) y behind =>
      obtain ⟨t, tail, ht, -⟩ := (Remnant.letter k y behind).exists_head
      rw [tokens_letter_succ, ht] at h
      exact absurd h (finalValue_ne_failure _ _ _ x)
  · rintro rfl
    exact finalValue_letter x

namespace Expression

variable {l : Level}

/-- The value of what is left of an expression. -/
def standingValue (e : Expression Standing l) : Except Failure Number := do
  let a ← e.remnant
  finalValue a.tokens

theorem standingValue_eq_failure_iff {e : Expression Standing l} {x : Letter} :
    e.standingValue = .error x.failure ↔ e.Exposes x := by
  rw [standingValue, Except.bind_eq_error_iff, Exposes]
  simp only [Remnant.finalValue_eq_failure_iff, exists_eq_right]

/-- An open expression has no value. -/
theorem standingValue_ne_ok {e : Expression Standing l} (h : e.IsOpen) (n : Number) :
    e.standingValue ≠ .ok n := by
  obtain ⟨x, hx⟩ := h
  intro hvalue
  obtain ⟨a, ha, hvalue⟩ := Except.bind_eq_ok_iff.mp hvalue
  obtain ⟨r, hr, hremnant⟩ := Except.bind_eq_ok_iff.mp ha
  have hreduce : reduce r.tokens = .ok [.number n] := by
    rw [reduce_row, hremnant, ← finalValue_eq_ok_iff.mp hvalue]
    rfl
  cases List.mem_singleton.mp (mem_reduce x.isPlain_sign ((mem_row hr x).mpr hx) hreduce)

end Expression

/-! ### Lines -/

/-- An operand that is no assignment. -/
inductive Atom where
  | literal (a : Literal)
  | letter (x : Letter)

namespace Atom

def operand : Atom → Operand
  | literal a => .literal a
  | letter x => .letter x

def pending : Atom → Pending
  | literal a => .literal a
  | letter x => .letter x

/-- The tokens of an operand once names have been looked up. -/
def tokens (env : Environment) (a : Atom) : List Token := a.pending.tokens.map env.resolve

/-- What an operand is in an environment of numbers. -/
def standing (env : Environment) : Atom → Standing
  | literal a => .number a.number
  | letter x =>
      match env.get? x.name with
      | some (.number n) => .number n
      | _ => .unbound x

end Atom

/-- All tokens that are bound are numbers. -/
def Environment.IsOfNumbers (env : Environment) : Prop :=
  ∀ name t, env.get? name = some t → t.isNumber = true

namespace Environment.IsOfNumbers

variable {env : Environment}

theorem exists_number (h : env.IsOfNumbers) {name : String} {t : Token}
    (ht : env.get? name = some t) : ∃ n, t = .number n := by
  have hnumber := h name t ht
  cases t with
  | number n => exact ⟨n, rfl⟩
  | _ => cases hnumber

theorem isNumeric (h : env.IsOfNumbers) : env.IsNumeric := by
  intro name t ht
  obtain ⟨n, rfl⟩ := h.exists_number ht
  rfl

theorem withoutOffsets (h : env.IsOfNumbers) : env.withoutOffsets.IsOfNumbers := by
  intro name t ht
  rw [get?_withoutOffsets] at ht
  obtain ⟨u, hu, rfl⟩ := Option.map_eq_some_iff.mp ht
  rw [Token.isNumber_withoutOffset]
  exact h name u hu

end Environment.IsOfNumbers

theorem Atom.standing_withoutOffsets (env : Environment) :
    Atom.standing env.withoutOffsets = Atom.standing env := by
  funext a
  cases a with
  | literal a => rfl
  | letter x =>
    simp only [Atom.standing, Environment.get?_withoutOffsets]
    match env.get? x.name with
    | none => rfl
    | some (.number n) => rfl
    | some (.char c p) => rfl
    | some (.numeral s) => rfl
    | some (.symbol name) => rfl

theorem get?_of_standing {env : Environment} (henv : env.IsOfNumbers) {a : Atom} {x : Letter}
    (h : a.standing env = .unbound x) : a = .letter x ∧ env.get? x.name = none := by
  cases a with
  | literal a => cases h
  | letter y =>
    rw [Atom.standing] at h
    cases hy : env.get? y.name with
    | none =>
      rw [hy] at h
      obtain rfl := Standing.unbound.inj h
      exact ⟨rfl, hy⟩
    | some t =>
      obtain ⟨n, rfl⟩ := henv.exists_number hy
      rw [hy] at h
      cases h

/-- The number that an operand is. -/
def Standing.read : Standing → Except Failure Number
  | number n => .ok n
  | unbound x => .error x.failure

namespace Expression

variable {l : Level}

/-- The expression with its letters looked up. -/
def standing (env : Environment) (e : Expression Atom l) : Expression Standing l :=
  e.map (Atom.standing env)

/-- No literal among the operands is too long to be read. -/
def HasReadableLiterals (e : Expression Atom l) : Prop :=
  ∀ a, .atom (.literal a) ∈ e.lexemes → a.IsReadable

section Environment

variable {env : Environment}

theorem mentions_standing (henv : env.IsOfNumbers) {e : Expression Atom l} {x : Letter} :
    (e.standing env).Mentions x ↔ .atom (.letter x) ∈ e.lexemes ∧ env.get? x.name = none := by
  rw [Mentions, standing, lexemes_map]
  constructor
  · intro h
    obtain ⟨lexeme, hmem, hx⟩ := List.mem_map.mp h
    cases lexeme with
    | sign c => cases hx
    | atom a =>
      obtain ⟨rfl, hnone⟩ := get?_of_standing henv (Lexeme.atom.inj hx)
      exact ⟨hmem, hnone⟩
  · rintro ⟨hmem, hnone⟩
    refine List.mem_map.mpr ⟨_, hmem, ?_⟩
    rw [Lexeme.map, Atom.standing, hnone]

/-- A letter that is not bound is a sign like others to those that read digits. -/
def detach (env : Environment) : Lexeme Atom → Lexeme Atom
  | .sign c => .sign c
  | .atom a =>
      match a.standing env with
      | .number _ => .atom a
      | .unbound x => .sign x.char

theorem separated_detach (env : Environment) {L : List (Lexeme Atom)}
    (hL : Separated (· ∈ signs) L) : Separated IsNoDigit (L.map (detach env)) := by
  have hletter : ∀ x : Letter, IsNoDigit x.char := fun x =>
    (Token.isDigit_char x.char none).symm.trans x.isDigit_sign
  induction hL with
  | nil => exact .nil
  | sign hc _ ih => exact .sign (isNoDigit_of_mem_signs hc) ih
  | atom a =>
    rw [List.map_singleton, detach]
    cases a.standing env with
    | number n => exact .atom a
    | unbound x => exact .sign (hletter x) .nil
  | atom_sign a hc _ ih =>
    rw [List.map_cons, detach]
    cases a.standing env with
    | number n => exact .atom_sign a (isNoDigit_of_mem_signs hc) ih
    | unbound x => exact .sign (hletter x) (.sign (isNoDigit_of_mem_signs hc) ih)

theorem mem_detach {L : List (Lexeme Atom)} {a : Atom} (h : .atom a ∈ L.map (detach env)) :
    .atom a ∈ L ∧ ∃ n, a.standing env = .number n := by
  obtain ⟨lexeme, hmem, ha⟩ := List.mem_map.mp h
  cases lexeme with
  | sign c => cases ha
  | atom b =>
    rw [detach] at ha
    cases hb : b.standing env with
    | number n =>
      rw [hb] at ha
      obtain rfl := Lexeme.atom.inj ha
      exact ⟨hmem, n, hb⟩
    | unbound x => rw [hb] at ha; cases ha

theorem spell_detach (henv : env.IsOfNumbers) (x : Lexeme Atom) :
    (detach env x).spell Token.sign (Atom.tokens env) = x.spell Token.sign (Atom.tokens env) := by
  cases x with
  | sign c => rfl
  | atom a =>
    rw [detach]
    cases ha : a.standing env with
    | number n => rfl
    | unbound x =>
      obtain ⟨rfl, hnone⟩ := get?_of_standing henv ha
      simp [Atom.tokens, Atom.pending, Pending.tokens, Environment.resolve, x.name?_sign, hnone]

theorem read_detach (x : Lexeme Atom) :
    (detach env x).read (fun a => (a.standing env).read) =
      .ok (x.map (Atom.standing env)).standingToken := by
  cases x with
  | sign c => rfl
  | atom a =>
    rw [detach, Lexeme.map, Lexeme.standingToken]
    cases ha : a.standing env with
    | number n =>
      rw [Lexeme.read, ha]
      rfl
    | unbound x => rfl

theorem standFor_atom (henv : env.IsOfNumbers) {a : Atom} {n : Number}
    (h : a.standing env = .number n) (hr : ∀ d, a = .literal d → d.IsReadable) :
    StandFor (a.tokens env) (a.standing env).read := by
  rw [h]
  cases a with
  | literal d =>
    obtain rfl := Standing.number.inj h
    have hread : (Numeric.digits d).read = .ok d.number :=
      Numeric.read_of_isReadable (v := .digits d) (hr d rfl)
    rw [Standing.read, ← hread]
    exact standFor_pending rfl
  | letter x =>
    rw [Atom.standing] at h
    cases hx : env.get? x.name with
    | none => rw [hx] at h; cases h
    | some t =>
      obtain ⟨m, rfl⟩ := henv.exists_number hx
      rw [hx] at h
      obtain rfl := Standing.number.inj h
      have hdenote : (Pending.letter x).denote env = some (.number m) := by
        rw [Pending.denote, hx]
        rfl
      exact standFor_pending hdenote

/-- The tokens of a line are read as numbers, letters that are not bound, and signs. -/
theorem readNumbers_standing (henv : env.IsOfNumbers) {e : Expression Atom l}
    (hr : e.HasReadableLiterals) :
    readNumbers (e.lexemes.flatMap (Lexeme.spell Token.sign (Atom.tokens env))) =
      .ok (e.standing env).standingTokens := by
  have hspell : e.lexemes.flatMap (Lexeme.spell Token.sign (Atom.tokens env)) =
      (e.lexemes.map (detach env)).flatMap (Lexeme.spell Token.sign (Atom.tokens env)) := by
    rw [List.flatMap_map]
    exact List.flatMap_congr fun x _ => (spell_detach henv x).symm
  have hstand : ∀ a, .atom a ∈ e.lexemes.map (detach env) →
      StandFor (a.tokens env) (a.standing env).read := by
    intro a ha
    obtain ⟨hmem, n, hn⟩ := mem_detach ha
    exact standFor_atom henv hn fun d hd => hr d (hd ▸ hmem)
  have hread : (Lexeme.read fun a => (a.standing env).read) ∘ detach env = fun x =>
      pure (x.map (Atom.standing env)).standingToken := funext read_detach
  rw [hspell, readNumbers_lexemes (separated_detach env e.separated_lexemes) hstand,
    List.mapM_map, hread, List.mapM_pure, standingTokens, standing, lexemes_map, List.map_map]
  rfl

/-- A line without assignments leaves the environment alone, and it comes to what its tokens do once
names have been looked up. -/
theorem lineWithin_atoms (henv : env.IsOfNumbers) (e : Expression Atom .sum) (depth : Nat) :
    (lineWithin depth ((e.map Atom.operand).lineText.map Token.sign) env).1 = (do
      let reduced ← arithmetic (evaluateWithin (resolveNames env) depth)
        (e.lexemes.flatMap (Lexeme.spell Token.sign (Atom.tokens env)))
      finalValue reduced) := by
  have hperform : ((e.map Atom.operand).mapM Operand.perform).run env =
      some (e.map Atom.pending, env) := by
    rw [mapM_map, mapM_eq_pure (g := Atom.pending) fun a _ => by cases a <;> rfl]
    rfl
  obtain ⟨-, hassigned⟩ := result_assignments_lineText hperform henv.isNumeric
  have htokens : ((e.map Atom.pending).lexemes.flatMap
        (Lexeme.spell Token.sign Pending.tokens)).map env.resolve =
      e.lexemes.flatMap (Lexeme.spell Token.sign (Atom.tokens env)) := by
    rw [map_resolve_lexemes env fun c =>
      (e.map Atom.pending).separated_lexemes.isSign_of_mem (c := c), lexemes_map, List.flatMap_map]
    refine List.flatMap_congr fun x _ => ?_
    cases x <;> rfl
  rw [lineWithin, hassigned]
  simp only
  rw [htokens]

end Environment

end Expression

/-- The letter occurs in the expression and is not bound, and it is blamed for the line. -/
def Session.Blames (s : Session) (e : Expression Atom .sum) (source : String) (x : Letter) : Prop :=
  .atom (.letter x) ∈ e.lexemes ∧ s.env.get? x.name = none ∧
    ∃ p, ((Session.compute source).result s).1 = .error (.at (.unbound x.name) (.char x.char p))

/-- In a session whose variables are numbers, a line with an unbound letter has no value; and such a
letter is blamed exactly when it is the first that an operation meets, with nothing that fails
before, or when it alone is left. -/
theorem compute_open {s : Session} (hs : s.pipeline = Pipeline.standard.withVariables)
    (henv : s.env.IsOfNumbers) {e : Expression Atom .sum} (hr : e.HasReadableLiterals)
    (hopen : ∃ x, .atom (.letter x) ∈ e.lexemes ∧ s.env.get? x.name = none)
    {source : String} (hsource : solidChars source = (e.map Atom.operand).lineText) :
    (∀ n, ((Session.compute source).result s).1 ≠ .ok n) ∧
      ∀ x, s.Blames e source x ↔ (e.standing s.env).Exposes x := by
  let env := s.env.withoutOffsets
  have henv' : env.IsOfNumbers := henv.withoutOffsets
  have hstanding : e.standing env = e.standing s.env := by
    rw [Expression.standing, Atom.standing_withoutOffsets]
    rfl
  have hunbound : (e.standing env).IsUnboundIn env := fun x hx =>
    ((Expression.mentions_standing henv').mp hx).2
  obtain ⟨hline, -⟩ := withoutOffsets_compute_withVariables hs source
  have hcompute := congrArg Prod.fst hline
  rw [hsource, Expression.lineWithin_atoms henv',
    Expression.arithmetic_standing hunbound (Expression.readNumbers_standing henv' hr), hstanding,
    bind_assoc] at hcompute
  change _ = (e.standing s.env).standingValue at hcompute
  constructor
  · intro n hn
    obtain ⟨y, hy⟩ := hopen
    have hisOpen : (e.standing s.env).IsOpen := ⟨y, (Expression.mentions_standing henv).mpr hy⟩
    exact Expression.standingValue_ne_ok hisOpen n
      (hcompute.symm.trans (eq_ok_iff_withoutOffsets.mp hn))
  · intro x
    rw [← Expression.standingValue_eq_failure_iff, ← hcompute]
    constructor
    · rintro ⟨-, -, p, hp⟩
      rw [hp]
      rfl
    · intro hfails
      have hx : (e.standing s.env).Mentions x :=
        (Expression.standingValue_eq_failure_iff.mp (hcompute.symm.trans hfails)).mentions
      obtain ⟨hmem, hnone⟩ := (Expression.mentions_standing henv).mp hx
      exact ⟨hmem, hnone, exists_of_withoutOffsets_at hfails⟩

/-- A session in which one letter is bound to a number. -/
def Session.binding (a : Letter) (n : Number) : Session where
  settings := {}
  pipeline := Pipeline.standard.withVariables
  env := Environment.empty.insert a.name (.number n)

theorem Session.isOfNumbers_binding (a : Letter) (n : Number) :
    (Session.binding a n).env.IsOfNumbers := by
  intro name t ht
  rw [binding, Environment.get?_insert] at ht
  split at ht
  · rw [← Option.some.inj ht]
    rfl
  · cases ht

section Lines

variable (x a : Letter) (d : Literal)

/-- The expression `-x/a-d`. -/
def negatedFraction : Expression Atom .sum :=
  .added (.term (.scaled (.single (.negated (.atom (.letter x)))) .dividedBy
    (.plain (.atom (.letter a))))) .minus (.single (.plain (.atom (.literal d))))

/-- The expression `-x`. -/
def negatedLetter : Expression Atom .sum := .term (.single (.negated (.atom (.letter x))))

end Lines

/-- The divisor is zero, but the letter that is divided by it is met first. -/
theorem compute_negatedFraction :
    ∃ p, ((Session.compute "-x / a - 3").result (.binding ⟨'a', rfl⟩ (.int 0))).1 =
      .error (.at (.unbound "x") (.char 'x' p)) := by
  let x : Letter := ⟨'x', rfl⟩
  let a : Letter := ⟨'a', rfl⟩
  let d : Literal := .ofDigit '3' rfl
  have hunbound : (Session.binding a (.int 0)).env.get? x.name = none := by decide
  have hzero : (Session.binding a (.int 0)).env.get? a.name = some (.number (.int 0)) := by decide
  have hstanding : (negatedFraction x a d).standing (Session.binding a (.int 0)).env =
      .added (.term (.scaled (.single (.negated (.atom (.unbound x)))) .dividedBy
        (.plain (.atom (.number (.int 0)))))) .minus
          (.single (.plain (.atom (.number (.int 3))))) := by
    simp only [negatedFraction, Expression.standing, Expression.map, Atom.standing, hunbound, hzero]
    rfl
  have hreadable : (negatedFraction x a d).HasReadableLiterals := by
    intro b hb
    obtain rfl : b = d := by simpa [negatedFraction, Expression.lexemes] using hb
    show 1 ≤ Decimal.digitLimit
    decide
  have hsource : solidChars "-x / a - 3" = ((negatedFraction x a d).map Atom.operand).lineText := by
    decide
  obtain ⟨-, hblames⟩ := compute_open (s := .binding a (.int 0)) rfl
    (Session.isOfNumbers_binding a (.int 0)) hreadable
    ⟨x, by simp [negatedFraction, Expression.lexemes], hunbound⟩ hsource
  have hexposes :
      ((negatedFraction x a d).standing (Session.binding a (.int 0)).env).Exposes x := by
    rw [hstanding]
    exact .inl rfl
  obtain ⟨-, -, hblamed⟩ := (hblames x).mpr hexposes
  exact hblamed

/-- What a group leaves is met by the operators next to it: so `x` is blamed for `n*(x-m)` and for
`(x-m)*x`. -/
example (x : Letter) (m n : Number) :
    let difference : Expression Standing .sum :=
      .added (.term (.single (.plain (.atom (.unbound x))))) .minus
        (.single (.plain (.atom (.number m))))
    Expression.Exposes (.scaled (.single (.plain (.atom (.number n)))) .times
        (.plain (.group difference))) x ∧
      Expression.Exposes (.scaled (.single (.plain (.group difference))) .times
        (.plain (.atom (.unbound x)))) x :=
  ⟨.inl rfl, .inl rfl⟩

/-- A minus before a letter is an operator that has nothing on its left, one behind a letter is the
sign of a number, and numbers can be too large to be added. -/
theorem compute_unblamed :
    ((Session.compute "-x").result (.binding ⟨'b', rfl⟩ (.int (10 ^ 400)))).1 =
        .error (.evaluation ⟨.notReduced "- x", some (.char '-' (some 0))⟩) ∧
      ((Session.compute "x-3").result (.binding ⟨'b', rfl⟩ (.int (10 ^ 400)))).1 =
        .error (.evaluation ⟨.notReduced "x -3", some (.char 'x' (some 0))⟩) ∧
      ((Session.compute "b+1/2+x").result (.binding ⟨'b', rfl⟩ (.int (10 ^ 400)))).1 =
        .error (.overflow .conversion) := by
  refine ⟨?_, ?_, ?_⟩ <;> decide +kernel

/-- A letter that is not bound need not be blamed, even if no operation on known numbers fails. -/
theorem not_forall_blamesLetter :
    ¬∀ (s : Session) (e : Expression Atom .sum) (source : String),
      s.pipeline = Pipeline.standard.withVariables → s.env.IsOfNumbers → e.HasReadableLiterals →
        (∃ x, .atom (.letter x) ∈ e.lexemes ∧ s.env.get? x.name = none) →
        (e.standing s.env).IsSound → solidChars source = (e.map Atom.operand).lineText →
        ∃ x, s.Blames e source x := by
  intro h
  let x : Letter := ⟨'x', rfl⟩
  let s : Session := .binding ⟨'b', rfl⟩ (.int (10 ^ 400))
  have hunbound : s.env.get? x.name = none := by decide
  have hreadable : (negatedLetter x).HasReadableLiterals := by
    intro d hd
    simp [negatedLetter, Expression.lexemes] at hd
  have hstanding : (negatedLetter x).standing s.env =
      .term (.single (.negated (.atom (.unbound x)))) := by
    simp only [negatedLetter, Expression.standing, Expression.map, Atom.standing, hunbound]
  have hsound : ((negatedLetter x).standing s.env).IsSound := by
    rw [hstanding]
    exact ⟨id, id⟩
  have hsource : solidChars "-x" = ((negatedLetter x).map Atom.operand).lineText := by decide
  obtain ⟨y, -, -, p, hblamed⟩ := h s (negatedLetter x) "-x" rfl (Session.isOfNumbers_binding _ _)
    hreadable ⟨x, by simp [negatedLetter, Expression.lexemes], hunbound⟩ hsound hsource
  rw [compute_unblamed.1] at hblamed
  cases hblamed

end Calculator
