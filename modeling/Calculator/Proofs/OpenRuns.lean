import Mathlib.Data.List.Chain
import Calculator.Proofs.OpenReduction
import Calculator.Proofs.Residue

/-! Runs of open expressions.  In a row no two letters stand side by side, so no keyword is ever
made of them, and a run on the tokens of a row is a reduction.  The groups of an expression are run
innermost first, and each leaves what takes its place; so the run of the whole comes to what is left
of the expression. -/

namespace Calculator

/-! ### Names apart -/

/-- No two names stand side by side. -/
def Apart (tokens : List Token) : Prop :=
  tokens.IsChain fun t u => t.isName = true → u.isName = false

theorem apart_cons {t : Token} {tokens : List Token} :
    Apart (t :: tokens) ↔
      (t.isName = true → ∀ u ∈ tokens.head?, u.isName = false) ∧ Apart tokens := by
  rw [Apart, List.isChain_cons]
  exact ⟨fun h => ⟨fun ht u hu => h.1 u hu ht, h.2⟩, fun h => ⟨fun u hu ht => h.1 ht u hu, h.2⟩⟩

theorem apart_nil : Apart [] := .nil

/-- No keyword is made where names are apart. -/
theorem keywordsOnto_of_apart {output tokens : List Token} (h : Apart tokens)
    (ho : ∀ t ∈ output.head?, t.isName = true → ∀ u ∈ tokens.head?, u.isName = false) :
    keywordsOnto output tokens = output.reverse ++ tokens := by
  have hletter : ∀ {t : Token} {c : Char}, Text.isLetter c = true → t.isChar c = true →
      t.isName = true := by
    intro t c hc ht
    obtain ⟨p, rfl⟩ := Token.isChar_iff.mp ht
    rwa [Token.isName_char]
  induction tokens generalizing output with
  | nil => simp [keywordsOnto, Window.scanOnto]
  | cons u tokens ih =>
    obtain ⟨hu, htokens⟩ := apart_cons.mp h
    have hpush : keywordsOnto output (u :: tokens) = keywordsOnto (u :: output) tokens := by
      by_cases hlast : u.isChar 't' = true
      · refine keywordsOnto_cons_of_admits (fun t ht => ?_) u tokens
        have hname : u.isName = true := hletter (by decide) hlast
        rw [Bool.eq_false_iff]
        intro he
        simp [ho t ht (hletter (by decide) he) u rfl] at hname
      · exact keywordsOnto_cons_of_not_last (by simpa using hlast) output tokens
    rw [hpush, ih htokens]
    · simp
    · intro t ht
      obtain rfl := Option.some.inj ht
      exact hu

theorem keywords_of_apart {tokens : List Token} (h : Apart tokens) : keywords tokens = tokens :=
  keywordsOnto_of_apart h (by simp)

/-! ### Tokens that have been looked up -/

/-- Numbers, operators, and letters that are not bound, of which no two stand side by side. -/
structure AreStanding (env : Environment) (tokens : List Token) : Prop where
  standing : ∀ t ∈ tokens,
    t.isPlain = true ∨ ∃ x : Letter, env.get? x.name = none ∧ t = .sign x.char
  apart : Apart tokens

namespace AreStanding

variable {env : Environment} {tokens tokens' : List Token}

theorem nil : AreStanding env [] := ⟨by simp, apart_nil⟩

theorem plain {t : Token} (h : t.isPlain = true) : AreStanding env [t] := by
  refine ⟨fun u hu => ?_, .singleton t⟩
  rw [List.mem_singleton.mp hu]
  exact .inl h

theorem letter {x : Letter} (h : env.get? x.name = none) : AreStanding env [.sign x.char] :=
  ⟨fun _ hu => .inr ⟨x, h, List.mem_singleton.mp hu⟩, .singleton _⟩

/-- An operator keeps the names on both sides of it apart. -/
theorem between (h : AreStanding env tokens) (op : Operator) (h' : AreStanding env tokens') :
    AreStanding env (tokens ++ .sign op.char :: tokens') := by
  have hplain : (Token.sign op.char).isPlain = true := Token.isPlain_sign op
  have hname : (Token.sign op.char).isName = false := by
    simp [Token.isName, Token.name?_of_isPlain hplain]
  constructor
  · intro t ht
    rcases List.mem_append.mp ht with ht | ht
    · exact h.standing t ht
    · rcases List.mem_cons.mp ht with rfl | ht
      · exact .inl hplain
      · exact h'.standing t ht
  · refine List.isChain_append.mpr ⟨h.apart, apart_cons.mpr ⟨fun hop => ?_, h'.apart⟩, ?_⟩
    · simp [hname] at hop
    · rintro t - u hu -
      obtain rfl := Option.some.inj hu
      exact hname

variable (h : AreStanding env tokens)
include h

theorem lacks {c : Char} (hletter : Text.isLetter c = false) (hop : ∀ op : Operator, op.char ≠ c) :
    Lacks c tokens := by
  intro t ht
  rcases h.standing t ht with hplain | ⟨x, -, rfl⟩
  · exact Token.isChar_of_isPlain hplain hop
  · exact x.isChar_sign hletter

theorem noOpen : Lacks '(' tokens := h.lacks (by decide) (Operator.char_ne (by decide))

theorem resolveNames : Calculator.resolveNames env tokens = tokens := by
  have hresolve : ∀ t ∈ tokens, env.resolve t = t := by
    intro t ht
    rcases h.standing t ht with hplain | ⟨x, hx, rfl⟩
    · exact Environment.resolve_of_not_isName
        (by simp [Token.isName, Token.name?_of_isPlain hplain])
    · simp [Environment.resolve, x.name?_sign, hx]
  rw [Calculator.resolveNames, keywords_of_apart h.apart, List.map_congr_left hresolve,
    List.map_id']

/-- A run on such tokens is a reduction. -/
theorem evaluateWithin (depth : Nat) :
    Calculator.evaluateWithin (Calculator.resolveNames env) (depth + 1) tokens = reduce tokens := by
  have hdigit : ∀ t ∈ tokens, t.isDigit = false := by
    intro t ht
    rcases h.standing t ht with hplain | ⟨x, -, rfl⟩
    · exact Token.isDigit_of_isPlain hplain
    · exact x.isDigit_sign
  have hclose : Lacks ')' tokens := h.lacks (by decide) (Operator.char_ne (by decide))
  rw [Calculator.evaluateWithin, h.resolveNames, arithmetic, readNumbers_of_not_isDigit hdigit,
    Except.ok_bind, groups_of_noClose hclose]
  rfl

end AreStanding

theorem areStanding_remnant {env : Environment} {a : Remnant}
    (h : ∀ x : Letter, .sign x.char ∈ a.tokens → env.get? x.name = none) :
    AreStanding env a.tokens := by
  cases a with
  | number n => exact .plain rfl
  | letter k x behind =>
    induction k with
    | zero =>
      have hx : env.get? x.name = none := h x (by cases behind <;> exact List.mem_cons_self)
      cases behind with
      | none => exact .letter hx
      | some n =>
        refine ⟨fun t ht => ?_, apart_cons.mpr ⟨fun _ u hu => ?_, .singleton _⟩⟩
        · rcases List.mem_cons.mp ht with rfl | ht
          · exact .inr ⟨x, hx, rfl⟩
          · rw [List.mem_singleton.mp ht]
            exact .inl rfl
        · rw [← Option.some.inj hu]
          rfl
    | succ k ih =>
      rw [Remnant.tokens_letter_succ] at h ⊢
      exact AreStanding.nil.between (.addition .minus)
        (ih fun y hy => h y (List.mem_cons_of_mem _ hy))

/-- In a row there is an operator between two letters. -/
theorem areStanding_row {env : Environment} {r : Row}
    (h : ∀ x : Letter, .sign x.char ∈ r.tokens → env.get? x.name = none) :
    AreStanding env r.tokens := by
  have hpart : ∀ p : Part, (∀ x : Letter, .sign x.char ∈ p.tokens → env.get? x.name = none) →
      AreStanding env p.tokens := by
    rintro ⟨negative, a⟩ hp
    cases negative with
    | false => exact areStanding_remnant hp
    | true =>
      exact AreStanding.nil.between (.addition .minus)
        (areStanding_remnant fun x hx => hp x (List.mem_cons_of_mem _ hx))
  obtain ⟨p, rest⟩ := r
  induction rest generalizing p with
  | nil =>
    rw [Row.tokens, partTokens, List.flatMap_nil, List.append_nil] at h ⊢
    exact hpart p h
  | cons s rest ih =>
    obtain ⟨op, q⟩ := s
    have htokens : Row.tokens ⟨p, (op, q) :: rest⟩ =
        p.tokens ++ .sign op.char :: Row.tokens ⟨q, rest⟩ := rfl
    rw [htokens] at h ⊢
    exact (hpart p fun x hx => h x (List.mem_append_left _ hx)).between op
      (ih q fun x hx => h x (List.mem_append_right _ (List.mem_cons_of_mem _ hx)))

/-! ### Runs of groups -/

section Groups

variable {inner : List Token → Except Failure (List Token)} {tokens tokens' left left' : List Token}
  {f : Failure}

variable (inner) in
/-- The groups among the tokens have been run, and `left` is left of all of them. -/
def RunsTo (tokens left : List Token) : Prop :=
  ∀ output rest, (groupPlan output (tokens ++ rest)).carryOut inner =
    (groupPlan (left.reverse ++ output) rest).carryOut inner

variable (inner) in
/-- A group among the tokens fails, whatever follows. -/
def Stops (tokens : List Token) (f : Failure) : Prop :=
  ∀ output rest, (groupPlan output (tokens ++ rest)).carryOut inner = .error f

theorem RunsTo.append (h : RunsTo inner tokens left) (h' : RunsTo inner tokens' left') :
    RunsTo inner (tokens ++ tokens') (left ++ left') := by
  intro output rest
  rw [List.append_assoc, h, h', List.reverse_append, List.append_assoc]

theorem RunsTo.append_stops (h : RunsTo inner tokens left) (h' : Stops inner tokens' f) :
    Stops inner (tokens ++ tokens') f := by
  intro output rest
  rw [List.append_assoc, h, h']

theorem Stops.append (h : Stops inner tokens f) (tokens' : List Token) :
    Stops inner (tokens ++ tokens') f := by
  intro output rest
  rw [List.append_assoc, h]

theorem runsTo_sign {c : Char} (hc : c ≠ ')') : RunsTo inner [.sign c] [.sign c] :=
  fun output rest => groups_char hc output rest

theorem Standing.runsTo (a : Standing) : RunsTo inner [a.token] [a.token] := by
  cases a with
  | number n => exact fun _ _ => rfl
  | unbound x => exact runsTo_sign (x.char_ne (by decide))

/-- What is left inside parentheses is run, and its result takes the place of the group. -/
theorem RunsTo.close (h : RunsTo inner tokens left) (hopen : Lacks '(' left)
    (output rest : List Token) :
    (groupPlan output (.sign '(' :: (tokens ++ [.sign ')']) ++ rest)).carryOut inner = (do
      let result ← inner left
      (groupPlan (result.reverse ++ output) rest).carryOut inner) := by
  rw [List.cons_append, groups_char (by decide), List.append_assoc, h, List.singleton_append,
    groups_close hopen.reverse rfl rfl, List.reverse_reverse]

end Groups

/-! ### Groups of an expression -/

/-- The token of a lexeme whose letter, if it is one, has been looked up. -/
def Lexeme.standingToken : Lexeme Standing → Token
  | .sign c => .sign c
  | .atom a => a.token

namespace Expression

variable {l : Level}

/-- The tokens of an expression whose letters have been looked up. -/
def standingTokens (e : Expression Standing l) : List Token := e.lexemes.map Lexeme.standingToken

/-- The letters of the expression are not bound. -/
def IsUnboundIn (env : Environment) (e : Expression Standing l) : Prop :=
  ∀ x, e.Mentions x → env.get? x.name = none

variable {env : Environment} {depth : Nat}

variable (env depth) in
/-- The groups of an expression have been run, and its row is left, or one of them fails. -/
inductive Clears (e : Expression Standing l) : Prop
  | runs {r : Row} (row : e.row = .ok r)
      (runs : RunsTo (evaluateWithin (resolveNames env) (depth + 1)) e.standingTokens r.tokens)
  | stops {f : Failure} (row : e.row = .error f)
      (stops : Stops (evaluateWithin (resolveNames env) (depth + 1)) e.standingTokens f)

theorem Clears.of_row {l' : Level} {e' : Expression Standing l'} (h : e'.Clears env depth)
    {e : Expression Standing l} (hrow : e.row = e'.row) (hlexemes : e.lexemes = e'.lexemes) :
    e.Clears env depth := by
  have htokens : e.standingTokens = e'.standingTokens := congrArg _ hlexemes
  cases h with
  | runs hr hruns => exact .runs (hrow.trans hr) (htokens ▸ hruns)
  | stops hr hstops => exact .stops (hrow.trans hr) (htokens ▸ hstops)

/-- The groups on both sides of an operator are run one after the other. -/
theorem Clears.between {l₁ l₂ : Level} {e₁ : Expression Standing l₁} {e₂ : Expression Standing l₂}
    (h₁ : e₁.Clears env depth) (h₂ : e₂.Clears env depth) (op : Operator)
    {e : Expression Standing l} (hlexemes : e.lexemes = e₁.lexemes ++ .sign op.char :: e₂.lexemes)
    (hrow : e.row = (do let r ← e₁.row; let r' ← e₂.row; .ok (r.append op r'))) :
    e.Clears env depth := by
  have htokens : e.standingTokens =
      e₁.standingTokens ++ ([.sign op.char] ++ e₂.standingTokens) := by
    simp [standingTokens, hlexemes, Lexeme.standingToken]
  have hsign : RunsTo (evaluateWithin (resolveNames env) (depth + 1)) [.sign op.char]
      [.sign op.char] := runsTo_sign (op.char_ne (by decide))
  cases h₁ with
  | stops hr hstops => exact .stops (by rw [hrow, hr]; rfl) (htokens ▸ hstops.append _)
  | runs hr hruns =>
    cases h₂ with
    | stops hr' hstops =>
      exact .stops (by rw [hrow, hr, hr']; rfl)
        (htokens ▸ hruns.append_stops (hsign.append_stops hstops))
    | @runs r' hr' hruns' =>
      refine .runs (by rw [hrow, hr, hr']; rfl) ?_
      rw [htokens, Row.tokens_append]
      exact hruns.append (hsign.append hruns')

theorem Clears.group {e : Expression Standing .sum} (h : e.Clears env depth)
    (hunbound : e.IsUnboundIn env) : (group e).Clears env depth := by
  have htokens : (Expression.group e).standingTokens =
      .sign '(' :: (e.standingTokens ++ [.sign ')']) := by
    simp [standingTokens, lexemes, Lexeme.standingToken]
  cases h with
  | stops hr hstops =>
    refine .stops (by rw [row, hr]; rfl) ?_
    rw [htokens]
    exact (runsTo_sign (by decide)).append_stops (hstops.append _)
  | @runs r hr hruns =>
    have hstanding : AreStanding env r.tokens :=
      areStanding_row fun x hx => hunbound x ((mem_row hr x).mp hx)
    have hclose := hruns.close hstanding.noOpen
    rw [hstanding.evaluateWithin, ← htokens, reduce_row] at hclose
    cases ha : r.remnant with
    | error f =>
      refine .stops (f := f) (by rw [row, hr, Except.ok_bind, ha]; rfl) fun output rest => ?_
      rw [hclose, ha]
      rfl
    | ok a =>
      refine .runs (r := .single a) (by rw [row, hr, Except.ok_bind, ha]; rfl) fun output rest => ?_
      rw [hclose, ha, Row.tokens_single]
      rfl

theorem clears {e : Expression Standing l} (h : e.IsUnboundIn env) : e.Clears env depth := by
  induction e with
  | atom a =>
    refine .runs rfl ?_
    rw [Row.tokens_single, tokens_remnant]
    exact a.runsTo
  | group e ih =>
    have he : e.IsUnboundIn env := fun x hx => h x (mentions_group.mpr hx)
    exact (ih he).group he
  | plain p ih => exact (ih h).of_row rfl rfl
  | negated p ih =>
    have hsign : RunsTo (evaluateWithin (resolveNames env) (depth + 1)) [.sign '-'] [.sign '-'] :=
      runsTo_sign (by decide)
    cases ih fun x hx => h x (mentions_negated.mpr hx) with
    | stops hr hstops => exact .stops (by rw [row, hr]; rfl) (hsign.append_stops hstops)
    | runs hr hruns =>
      refine .runs (by rw [row, hr]; rfl) ?_
      rw [tokens_negated hr]
      exact hsign.append hruns
  | single f ih => exact (ih h).of_row rfl rfl
  | scaled t op f iht ihf =>
    have ht := iht fun x hx => h x (mentions_scaled.mpr (.inl hx))
    have hf := ihf fun x hx => h x (mentions_scaled.mpr (.inr hx))
    exact ht.between hf (.scaling op) rfl rfl
  | term t ih => exact (ih h).of_row rfl rfl
  | added e op t ihe iht =>
    have he := ihe fun x hx => h x (mentions_added.mpr (.inl hx))
    have ht := iht fun x hx => h x (mentions_added.mpr (.inr hx))
    exact he.between ht (.addition op) rfl rfl

/-- Tokens that are read as those of an expression come to those of what is left of it. -/
theorem arithmetic_standing {e : Expression Standing .sum} (h : e.IsUnboundIn env)
    {tokens : List Token} (ht : readNumbers tokens = .ok e.standingTokens) :
    arithmetic (evaluateWithin (resolveNames env) (depth + 1)) tokens =
      (do let a ← e.remnant; .ok a.tokens) := by
  rw [arithmetic, ht, Except.ok_bind, remnant, bind_assoc]
  have hclears : e.Clears env depth := clears h
  cases hclears with
  | stops hr hstops =>
    have hrun := hstops [] []
    rw [List.append_nil] at hrun
    rw [hrun, hr]
    rfl
  | runs hr hruns =>
    have hrun := hruns [] []
    rw [List.append_nil, List.append_nil, groupPlan, Plan.carryOut_done,
      List.reverse_reverse] at hrun
    rw [hrun, hr]
    exact reduce_row _

end Expression

end Calculator
