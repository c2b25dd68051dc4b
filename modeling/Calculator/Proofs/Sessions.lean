import Calculator.Proofs.Assignments
import Calculator.Proofs.Values

/-! Sessions with variables.  The meaning of a line has two phases: its assignments change the
environment, and with what they leave there its letters are looked up.  A session goes from line to
line as the meanings do, whether or not a line has a value. -/

namespace Calculator

/-- What an operand stands for once the assignments have been carried out. -/
def Pending.denote (env : Environment) : Pending → Option Numeric
  | .literal a => some (.digits a)
  | .letter x => (env.get? x.name).bind Token.numeric?
  | .stored t => t.numeric?

/-- The meaning of a line: the assignments first, and then the letters. -/
def meaning (e : Expression Operand .sum) :
    StateT Environment Option (Expression Numeric .sum) := do
  let pending ← e.mapM Operand.perform
  let env ← get
  StateT.lift (pending.mapM (Pending.denote env))

namespace Expression

variable {α β γ : Type} {l : Level}

def lineText (e : Expression Operand l) : List Char :=
  e.lexemes.flatMap (Lexeme.spell id Operand.text)

theorem map_map (f : α → β) (g : β → γ) (e : Expression α l) :
    (e.map f).map g = e.map fun a => g (f a) := by
  induction e <;> simp_all [map]

/-- An expression and what a function that may fail makes of it are two sides of one. -/
theorem exists_zip {f : α → Option β} {e : Expression α l} {e' : Expression β l}
    (h : e.mapM f = some e') :
    ∃ z : Expression {q : α × β // f q.1 = some q.2} l,
      e = z.map (fun q => q.1.1) ∧ e' = z.map (fun q => q.1.2) := by
  induction e with
  | atom a =>
    obtain ⟨b, hb, h⟩ := Option.bind_eq_some_iff.mp h
    obtain rfl := Option.some.inj h
    exact ⟨atom ⟨(a, b), hb⟩, rfl, rfl⟩
  | group e ih =>
    obtain ⟨e', he, h⟩ := Option.bind_eq_some_iff.mp h
    obtain rfl := Option.some.inj h
    obtain ⟨z, rfl, rfl⟩ := ih he
    exact ⟨group z, rfl, rfl⟩
  | plain p ih =>
    obtain ⟨p', hp, h⟩ := Option.bind_eq_some_iff.mp h
    obtain rfl := Option.some.inj h
    obtain ⟨z, rfl, rfl⟩ := ih hp
    exact ⟨plain z, rfl, rfl⟩
  | negated p ih =>
    obtain ⟨p', hp, h⟩ := Option.bind_eq_some_iff.mp h
    obtain rfl := Option.some.inj h
    obtain ⟨z, rfl, rfl⟩ := ih hp
    exact ⟨negated z, rfl, rfl⟩
  | single g ih =>
    obtain ⟨g', hg, h⟩ := Option.bind_eq_some_iff.mp h
    obtain rfl := Option.some.inj h
    obtain ⟨z, rfl, rfl⟩ := ih hg
    exact ⟨single z, rfl, rfl⟩
  | scaled t op g iht ihg =>
    obtain ⟨t', ht, h⟩ := Option.bind_eq_some_iff.mp h
    obtain ⟨g', hg, h⟩ := Option.bind_eq_some_iff.mp h
    obtain rfl := Option.some.inj h
    obtain ⟨z, rfl, rfl⟩ := iht ht
    obtain ⟨w, rfl, rfl⟩ := ihg hg
    exact ⟨scaled z op w, rfl, rfl⟩
  | term t ih =>
    obtain ⟨t', ht, h⟩ := Option.bind_eq_some_iff.mp h
    obtain rfl := Option.some.inj h
    obtain ⟨z, rfl, rfl⟩ := ih ht
    exact ⟨term z, rfl, rfl⟩
  | added e op t ihe iht =>
    obtain ⟨e', he, h⟩ := Option.bind_eq_some_iff.mp h
    obtain ⟨t', ht, h⟩ := Option.bind_eq_some_iff.mp h
    obtain rfl := Option.some.inj h
    obtain ⟨z, rfl, rfl⟩ := ihe he
    obtain ⟨w, rfl, rfl⟩ := iht ht
    exact ⟨added z op w, rfl, rfl⟩

def numbers (v : Expression Numeric l) : Expression Number l := v.map Numeric.toNumber

/-- No run of digits in the expression is too long to be read. -/
def AllReadable (v : Expression Numeric l) : Prop := ∀ a, .atom a ∈ v.lexemes → a.IsReadable

/-- Operands are read as what they stand for. -/
theorem readNumbers_of_mapM {f : α → Option Numeric} {e : Expression α l}
    {v : Expression Numeric l} (h : e.mapM f = some v) (hv : v.AllReadable)
    {spelled : α → List Token} (hs : ∀ a b, f a = some b → StandFor (spelled a) b.read) :
    readNumbers (e.lexemes.flatMap (Lexeme.spell Token.sign spelled)) = .ok v.numbers.tokens := by
  obtain ⟨z, rfl, rfl⟩ := exists_zip h
  have hspell : (z.map fun q => q.1.1).lexemes.flatMap (Lexeme.spell Token.sign spelled) =
      z.lexemes.flatMap (Lexeme.spell Token.sign fun q => spelled q.1.1) := by
    rw [lexemes_map, List.flatMap_map]
    congr 1
    funext x
    cases x <;> rfl
  have hread : z.mapM (fun q => q.1.2.read) = .ok (z.map fun q => q.1.2.toNumber) := by
    refine mapM_eq_ok fun q hq => Numeric.read_of_isReadable (hv q.1.2 ?_)
    rw [lexemes_map]
    exact List.mem_map.mpr ⟨.atom q, hq, rfl⟩
  rw [hspell, readNumbers_expression z fun q _ => hs q.1.1 q.1.2 q.2, hread, numbers, map_map]
  rfl

end Expression

/-! ### Lines -/

/-- An operand is resolved to tokens that stand for what it denotes. -/
theorem standFor_pending {p : Pending} {v : Numeric} {env : Environment}
    (h : p.denote env = some v) : StandFor (p.tokens.map env.resolve) v.read := by
  cases p with
  | literal a =>
    obtain rfl := Option.some.inj h
    rw [Pending.tokens, Environment.map_resolve_of_not_isName fun t ht =>
      Token.isName_of_numeric (Literal.numeric_of_mem ht)]
    exact standFor_digits a.nonempty a.ascii
  | letter x =>
    obtain ⟨t, ht, hv⟩ := Option.bind_eq_some_iff.mp h
    rw [Pending.tokens, List.map_singleton, x.resolve_sign ht]
    exact standFor_singleton (Token.readDigits_of_numeric hv)
  | stored t =>
    have hv : t.numeric? = some v := h
    rw [Pending.tokens, List.map_singleton, resolve_of_numeric (by rw [hv]; rfl) env]
    exact standFor_singleton (Token.readDigits_of_numeric hv)

theorem map_resolve_lexemes {M : List (Lexeme Pending)} (env : Environment)
    (hM : ∀ c, .sign c ∈ M → c ∈ Expression.signs) :
    (M.flatMap (Lexeme.spell Token.sign Pending.tokens)).map env.resolve =
      M.flatMap (Lexeme.spell Token.sign fun p => p.tokens.map env.resolve) := by
  have hsigns : ∀ c ∈ Expression.signs, (Token.sign c).isName = false :=
    Expression.forall_mem_signs.mpr (by decide)
  rw [List.map_flatMap]
  refine List.flatMap_congr fun x hx => ?_
  cases x with
  | sign c =>
    rw [Lexeme.spell_sign, Lexeme.spell_sign, List.map_singleton,
      Environment.resolve_of_not_isName (hsigns c (hM c hx))]
  | atom p => rfl

theorem map_sign_lineText {l : Level} (e : Expression Operand l) :
    e.lineText.map Token.sign =
      e.lexemes.flatMap (Lexeme.spell Token.sign fun o => o.text.map Token.sign) := by
  rw [Expression.lineText, List.map_flatMap]
  congr 1
  funext x
  cases x <;> rfl

/-- The assignments of a line are carried out as its meaning says. -/
theorem result_assignments_lineText {e : Expression Operand .sum} {p : Expression Pending .sum}
    {env env' : Environment} (h : (e.mapM Operand.perform).run env = some (p, env'))
    (henv : env.IsNumeric) :
    env'.IsNumeric ∧ (assignments (keywords (e.lineText.map Token.sign))).result env =
      (.ok (p.lexemes.flatMap (Lexeme.spell Token.sign Pending.tokens)), env') := by
  have hadmits : AdmitsLetter [] := by simp [AdmitsLetter]
  have hlexemes : (e.lexemes.mapM (Lexeme.mapM Operand.perform)).run env =
      some (p.lexemes, env') := by
    rw [e.mapM_lexemes, StateT.run_bind, h]
    rfl
  have hsigns := fun c => e.separated_lexemes.isSign_of_mem (c := c)
  have hresult := result_assignmentsOnto_lexemes hsigns hlexemes henv .nil
  rw [map_sign_lineText, keywords, keywordsOnto_lexemes e.separated_lexemes hadmits]
  exact hresult

/-- A line comes to what its meaning does, in the environment that its assignments leave. -/
theorem lineWithin_meaning {e : Expression Operand .sum} {v : Expression Numeric .sum}
    {env env' : Environment} (h : (meaning e).run env = some (v, env')) (henv : env.IsNumeric)
    (depth : Nat) :
    env'.IsNumeric ∧ (lineWithin (depth + 1) (e.lineText.map Token.sign) env).2 = env' ∧
      (v.AllReadable →
        (lineWithin (depth + 1) (e.lineText.map Token.sign) env).1 = v.numbers.outcome) := by
  rw [meaning, StateT.run_bind] at h
  obtain ⟨⟨p, env''⟩, hp, h⟩ := Option.bind_eq_some_iff.mp h
  obtain ⟨w, hw, hpair⟩ := Option.bind_eq_some_iff.mp h
  obtain ⟨rfl, rfl⟩ := Prod.mk.inj (Option.some.inj hpair)
  obtain ⟨henv', hassigned⟩ := result_assignments_lineText hp henv
  refine ⟨henv', ?_, fun hv => ?_⟩
  · rw [lineWithin, hassigned]
  · have hread := Expression.readNumbers_of_mapM hw hv fun _ _ => standFor_pending
    rw [← map_resolve_lexemes env'' fun c => p.separated_lexemes.isSign_of_mem (c := c)] at hread
    rw [lineWithin, hassigned]
    simp only
    rw [arithmetic_eq_outcome (evaluateWithin_chain (keepsPlain_resolveNames env'') depth) hread,
      bind_assoc]
    exact bind_pure w.numbers.outcome

/-- A line with variables, in a session whose environment is numeric: the environment after it is
the one of its meaning, and the line comes to the value of its meaning. -/
theorem compute_line {s : Session} (hs : s.pipeline = Pipeline.standard.withVariables)
    (henv : s.env.IsNumeric) {e : Expression Operand .sum} {source : String}
    (hsource : solidChars source = e.lineText) {v : Expression Numeric .sum} {env' : Environment}
    (h : (meaning e).run s.env.withoutOffsets = some (v, env')) :
    let after := (Session.compute source).result s
    after.2.env.withoutOffsets = env' ∧ after.2.env.IsNumeric ∧
      after.2.pipeline = s.pipeline ∧
      (v.AllReadable → ¬v.numbers.Overflows → v.numbers.Decides after.1) := by
  obtain ⟨hline, hsession⟩ := withoutOffsets_compute_withVariables hs source
  obtain ⟨henv', hafter, hvalue⟩ :=
    lineWithin_meaning h henv.withoutOffsets ((solidChars source).length + 248)
  rw [← hsource] at hafter hvalue
  obtain ⟨houtcome, henvironment⟩ := Prod.mk.inj hline
  intro after
  have hwithout : after.2.env.withoutOffsets = env' := henvironment.trans hafter
  refine ⟨hwithout, ?_, ?_, fun hv ho => ?_⟩
  · exact Environment.isNumeric_of_withoutOffsets (hwithout ▸ henv')
  · rw [hsession]
  · refine Expression.Describes.decides ?_ ho
    have hcomputed := houtcome.trans (hvalue hv)
    rw [hcomputed]
    exact v.numbers.describes_outcome

/-! ### Sessions -/

/-- What the lines of a session come to, one after the other, and the session after them.  A line
that fails does not end the session. -/
def outcomes : List String → Session → List (Except Failure Number) × Session
  | [], s => ([], s)
  | source :: sources, s =>
      let (outcome, s) := (Session.compute source).result s
      let (rest, s) := outcomes sources s
      (outcome :: rest, s)

/-- A session goes from line to line as the meanings of its lines do. -/
theorem outcomes_lines {s : Session} (hs : s.pipeline = Pipeline.standard.withVariables)
    (henv : s.env.IsNumeric) {lines : List (Expression Operand .sum)} {sources : List String}
    (hsources : List.Forall₂ (fun e source => solidChars source = e.lineText) lines sources)
    {values : List (Expression Numeric .sum)} {env' : Environment}
    (h : (lines.mapM meaning).run s.env.withoutOffsets = some (values, env')) :
    (outcomes sources s).2.env.withoutOffsets = env' ∧
      List.Forall₂ (fun v outcome =>
        v.AllReadable → ¬v.numbers.Overflows → v.numbers.Decides outcome)
        values (outcomes sources s).1 := by
  induction hsources generalizing s values with
  | nil =>
    obtain ⟨rfl, rfl⟩ := Prod.mk.inj (Option.some.inj h)
    exact ⟨rfl, .nil⟩
  | @cons e source lines sources hsource _ ih =>
    rw [List.mapM_cons, StateT.run_bind] at h
    obtain ⟨⟨v, env₁⟩, hv, h⟩ := Option.bind_eq_some_iff.mp h
    rw [StateT.run_bind] at h
    obtain ⟨⟨vs, env₂⟩, hvs, h⟩ := Option.bind_eq_some_iff.mp h
    obtain ⟨rfl, rfl⟩ := Prod.mk.inj (Option.some.inj h)
    obtain ⟨rfl, hnumeric, hpipeline, hdecides⟩ := compute_line hs henv hsource hv
    obtain ⟨hafter, hrest⟩ := ih (hpipeline.trans hs) hnumeric hvs
    exact ⟨hafter, .cons hdecides hrest⟩

section Storing

variable (x : Letter) (d : Char) (hd : Text.isAsciiDigit d = true)

/-- The line `set(x,d)`. -/
def storeLine : Expression Operand .sum :=
  .term (.single (.plain (.atom (.assignment (.digit x d hd)))))

/-- The line `x+set(x,d)`. -/
def useAndStoreLine : Expression Operand .sum :=
  .added (.term (.single (.plain (.atom (.letter x))))) .plus
    (.single (.plain (.atom (.assignment (.digit x d hd)))))

end Storing

theorem outcomes_useAndStore :
    (outcomes ["set(x, 3)", "x + set(x, 4)"]
        (.startWith {} Pipeline.standard.withVariables .empty)).1 =
      [.ok (.int 3), .ok (.int 8)] := by
  let x : Letter := ⟨'x', by decide⟩
  let four : Numeric := .digits (.ofDigit '4' rfl)
  have henv : Environment.empty.IsNumeric := fun name t h => by cases h
  let stored : Environment := .insert .empty x.name (.sign '3')
  let after : Environment := stored.insert x.name (.sign '4')
  have hstore : (meaning (storeLine x '3' rfl)).run Environment.empty.withoutOffsets =
      some (.term (.single (.plain (.atom (.digits (.ofDigit '3' rfl))))), stored) := by
    rfl
  have hletter : Pending.denote after (.letter x) = some four := by
    rw [Pending.denote, Environment.get?_insert, if_pos rfl]
    rfl
  -- The letter is looked up behind the assignment, and so it is four on both sides.
  have huse : (meaning (useAndStoreLine x '4' rfl)).run stored = some
      (.added (.term (.single (.plain (.atom four)))) .plus (.single (.plain (.atom four))),
        after) := by
    show (Expression.mapM (Pending.denote after) (.added (.term (.single (.plain
      (.atom (.letter x))))) .plus (.single (.plain (.atom (.stored (.sign '4'))))))).bind
        (fun v => some (v, after)) = _
    simp only [Expression.mapM, hletter]
    rfl
  have hmeaning : ([storeLine x '3' rfl, useAndStoreLine x '4' rfl].mapM meaning).run
      Environment.empty.withoutOffsets = some
        ([.term (.single (.plain (.atom (.digits (.ofDigit '3' rfl))))),
          .added (.term (.single (.plain (.atom four)))) .plus (.single (.plain (.atom four)))],
        after) := by
    simp only [List.mapM_cons, List.mapM_nil, StateT.run_bind, hstore, huse, Option.bind_eq_bind,
      Option.bind_some]
    rfl
  have hsources : List.Forall₂ (fun e source => solidChars source = Expression.lineText e)
      [storeLine x '3' rfl, useAndStoreLine x '4' rfl] ["set(x, 3)", "x + set(x, 4)"] :=
    .cons (by decide) (.cons (by decide) .nil)
  obtain ⟨-, h⟩ := outcomes_lines
    (s := .startWith {} Pipeline.standard.withVariables .empty) rfl henv hsources hmeaning
  simp only [outcomes, List.forall₂_cons] at h ⊢
  obtain ⟨hthree, height, -⟩ := h
  have hreadable : ∀ (d : Char) (hd : Text.isAsciiDigit d = true),
      (Numeric.digits (.ofDigit d hd)).IsReadable := by
    intro d hd
    show 1 ≤ Decimal.digitLimit
    decide
  have hthree := hthree (fun a ha => by
    rw [Lexeme.atom.inj (List.mem_singleton.mp ha)]
    exact hreadable '3' rfl) id
  have height := height (fun a ha => by
      obtain rfl : a = four := by simpa [Expression.lexemes] using ha
      exact hreadable '4' rfl) (by
    rintro (h | h | ⟨a, b, ha, hb, ho⟩)
    · exact h
    · exact h
    · obtain rfl := Option.some.inj ha
      obtain rfl := Option.some.inj hb
      cases ho)
  rw [hthree.value (.int 3) rfl, height.value (.int 8) rfl]

end Calculator
