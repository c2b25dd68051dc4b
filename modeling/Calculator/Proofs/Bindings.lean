import Calculator.Proofs.Offsets

/-! Offsets in environments.  Keywords are made and assignments are carried out without a look at
offsets: what they leave on tokens and bindings that have none is what they leave otherwise, with
the offsets taken off. -/

namespace Calculator

namespace Environment

theorem place_withoutOffset (name : Text.Points) (value : Token)
    (bindings : List (Text.Points × Token)) :
    place name value.withoutOffset (bindings.map (Prod.map id Token.withoutOffset)) =
      (place name value bindings).map (Prod.map id Token.withoutOffset) := by
  induction bindings with
  | nil => rfl
  | cons b rest ih =>
    simp only [List.map_cons, place, Prod.map_fst, id]
    split
    · rfl
    · rw [ih]
      rfl

/-- The environment with the offsets taken off the tokens it binds. -/
def withoutOffsets (env : Environment) : Environment where
  bindings := env.bindings.map (Prod.map id Token.withoutOffset)
  distinct := by
    rw [List.map_map]
    exact env.distinct

theorem insert_withoutOffsets (env : Environment) (name : String) (value : Token) :
    env.withoutOffsets.insert name value.withoutOffset =
      (env.insert name value).withoutOffsets :=
  ext (place_withoutOffset (Text.points name) value env.bindings)

theorem get?_withoutOffsets (env : Environment) (name : String) :
    env.withoutOffsets.get? name = (env.get? name).map Token.withoutOffset := by
  rw [get?, get?, lookup?, lookup?, withoutOffsets, List.find?_map, Option.map_map, Option.map_map]
  rfl

theorem resolve_withoutOffsets (env : Environment) (t : Token) :
    env.withoutOffsets.resolve t.withoutOffset = (env.resolve t).withoutOffset := by
  rw [resolve, resolve, Token.name?_withoutOffset]
  cases t.name? with
  | none => rfl
  | some name =>
    simp only [get?_withoutOffsets]
    cases env.get? name <;> rfl

theorem map_resolve_withoutOffsets (env : Environment) (tokens : List Token) :
    (Calculator.withoutOffsets tokens).map env.withoutOffsets.resolve =
      Calculator.withoutOffsets (tokens.map env.resolve) := by
  rw [Calculator.withoutOffsets, Calculator.withoutOffsets, List.map_map, List.map_map]
  exact List.map_congr_left fun t _ => env.resolve_withoutOffsets t

end Environment

/-! ### Edits of an environment -/

/-- What an edit leaves, with the offsets taken off. -/
def editedWithoutOffsets (edited : Except Failure (List Token) × Environment) :
    Except Failure (List Token) × Environment :=
  (tokensOnly edited.1, edited.2.withoutOffsets)

/-- An edit for each list of tokens that does not look at offsets. -/
def IgnoresOffsets (f : List Token → Edit (List Token)) : Prop :=
  ∀ tokens env, (f (withoutOffsets tokens)).result env.withoutOffsets =
    editedWithoutOffsets ((f tokens).result env)

section Scan

variable {tests : List (Token → Bool)}

theorem fits_withoutOffsets (h : ∀ test ∈ tests, ∀ t : Token, test t.withoutOffset = test t)
    (window : List Token) :
    Window.fits tests (withoutOffsets window) = Window.fits tests window := by
  induction tests generalizing window with
  | nil => cases window <;> rfl
  | cons test tests ih =>
    cases window with
    | nil => rfl
    | cons t window =>
      rw [withoutOffsets_cons, Window.fits, Window.fits, h test (by simp),
        ih fun test ht => h test (List.mem_cons_of_mem _ ht)]

/-- A scan for windows does not look at offsets when neither the tests nor the replacements do. -/
theorem scanOnto_withoutOffsets {combine : List Token → Edit (List Token)}
    (h : ∀ test ∈ tests, ∀ t : Token, test t.withoutOffset = test t)
    (hc : IgnoresOffsets combine) (output tokens : List Token) (env : Environment) :
    (Window.scanOnto tests combine (withoutOffsets output) (withoutOffsets tokens)).result
        env.withoutOffsets =
      editedWithoutOffsets ((Window.scanOnto tests combine output tokens).result env) := by
  induction tokens generalizing output env with
  | nil =>
    simp only [withoutOffsets_nil, Window.scanOnto, Action.result_pure, ← withoutOffsets_reverse]
    rfl
  | cons t tokens ih =>
    have htake : ((t.withoutOffset :: withoutOffsets output).take tests.length).reverse =
        withoutOffsets ((t :: output).take tests.length).reverse := by
      rw [withoutOffsets_reverse, withoutOffsets, withoutOffsets, List.map_take, List.map_cons]
    have hdrop : (t.withoutOffset :: withoutOffsets output).drop tests.length =
        withoutOffsets ((t :: output).drop tests.length) := by
      rw [withoutOffsets, withoutOffsets, List.map_drop, List.map_cons]
    simp only [withoutOffsets_cons, Window.scanOnto, htake, hdrop, fits_withoutOffsets h]
    split
    · rw [Action.result_bind, Action.result_bind, hc]
      rcases (combine ((t :: output).take tests.length).reverse).result env with ⟨_ | r, env'⟩
      · rfl
      · simp only [editedWithoutOffsets, tokensOnly, Except.withoutOffsets,
          ← withoutOffsets_reverse, ← withoutOffsets_append]
        exact ih _ env'
    · exact ih (t :: output) env

end Scan

theorem test_withoutOffset (pattern : List Window.Place) :
    ∀ test ∈ pattern.map Window.Place.test, ∀ t : Token, test t.withoutOffset = test t := by
  intro test htest t
  obtain ⟨place, -, rfl⟩ := List.mem_map.mp htest
  cases place with
  | any => rfl
  | literal u => cases u <;> cases t <;> rfl

theorem keywords_withoutOffsets (tokens : List Token) :
    keywords (withoutOffsets tokens) = withoutOffsets (keywords tokens) := by
  have h : ∀ tokens, Window.scanOnto (keywordPattern.map Window.Place.test) keywordWindow []
      tokens = pure (keywords tokens) := scanPattern_keywordPattern
  have hwindow : IgnoresOffsets keywordWindow := fun _ _ => rfl
  have hscan := scanOnto_withoutOffsets (test_withoutOffset keywordPattern) hwindow [] tokens
    .empty
  rw [withoutOffsets_nil, h, h] at hscan
  exact Except.ok.inj (congrArg Prod.fst hscan)

theorem assign_withoutOffsets (name value : Token) (env : Environment) :
    (assign name.withoutOffset value.withoutOffset).result env.withoutOffsets =
      editedWithoutOffsets ((assign name value).result env) := by
  simp only [assign, Token.name?_withoutOffset]
  cases name.name? with
  | none =>
    simp only [Action.result_bind, Action.result_ofExcept, Token.written,
      Token.isWritable_withoutOffset, Token.text_withoutOffset]
    by_cases hw : name.isWritable = true
    · rw [if_pos hw]
      rfl
    · rw [if_neg hw]
      rfl
  | some key =>
    simp only [Action.result_bind, Action.result_get, Action.result_set,
      env.resolve_withoutOffsets, env.insert_withoutOffsets]
    rfl

theorem assignmentWindow_withoutOffsets : IgnoresOffsets assignmentWindow := by
  intro window env
  match window with
  | [_, _, name, _, value, _] => exact assign_withoutOffsets name value env
  | [] | [_] | [_, _] | [_, _, _] | [_, _, _, _] | [_, _, _, _, _] => rfl
  | _ :: _ :: _ :: _ :: _ :: _ :: _ :: _ => rfl

theorem assignments_withoutOffsets : IgnoresOffsets assignments := fun tokens env =>
  scanOnto_withoutOffsets (test_withoutOffset assignmentPattern) assignmentWindow_withoutOffsets []
    tokens env

theorem resolveNames_withoutOffsets (env : Environment) (tokens : List Token) :
    resolveNames env.withoutOffsets (withoutOffsets tokens) =
      withoutOffsets (resolveNames env tokens) := by
  rw [resolveNames, resolveNames, keywords_withoutOffsets, env.map_resolve_withoutOffsets]

/-! ### Lines -/

/-- What a line with variables comes to when at most `depth` runs of groups lie inside each other,
and the environment after it. -/
def lineWithin (depth : Nat) (tokens : List Token) (env : Environment) :
    Except Failure Number × Environment :=
  match (assignments (keywords tokens)).result env with
  | (.ok assigned, env) => (do
      let reduced ← arithmetic (evaluateWithin (resolveNames env) depth) (assigned.map env.resolve)
      finalValue reduced, env)
  | (.error e, env) => (.error e, env)

theorem lineWithin_withoutOffsets (depth : Nat) (tokens : List Token) (env : Environment) :
    lineWithin depth (withoutOffsets tokens) env.withoutOffsets =
      Prod.map (Except.withoutOffsets id) Environment.withoutOffsets
        (lineWithin depth tokens env) := by
  rw [lineWithin, lineWithin, keywords_withoutOffsets, assignments_withoutOffsets]
  rcases (assignments (keywords tokens)).result env with ⟨_ | assigned, env⟩
  · rfl
  · simp only [editedWithoutOffsets, tokensOnly, Except.withoutOffsets, Prod.map,
      env.map_resolve_withoutOffsets]
    rw [arithmetic_withoutOffsets
      (evaluateWithin_withoutOffsets (resolveNames_withoutOffsets env) depth)]
    cases arithmetic (evaluateWithin (resolveNames env) depth) (assigned.map env.resolve) with
    | error f => rfl
    | ok reduced =>
      rw [tokensOnly, Except.withoutOffsets, Except.ok_bind, finalValue_withoutOffsets]
      rfl

theorem result_compute_eq_lineWithin {s : Session}
    (hs : s.pipeline = Pipeline.standard.withVariables) (source : String) :
    (Session.compute source).result s =
      Prod.map id (fun env => { s with env })
        (lineWithin ((solidChars source).length + 249) (tokenize source) s.env) := by
  rw [result_compute_withVariables hs, lineWithin, length_tokenize]
  rcases (assignments (keywords (tokenize source))).result s.env with ⟨_ | assigned, env⟩ <;> rfl

/-- A line with variables comes, offsets apart, to what its characters do, and nothing of the
session changes but the environment. -/
theorem withoutOffsets_compute_withVariables {s : Session}
    (hs : s.pipeline = Pipeline.standard.withVariables) (source : String) :
    (Except.withoutOffsets id ((Session.compute source).result s).1,
        ((Session.compute source).result s).2.env.withoutOffsets) =
      lineWithin ((solidChars source).length + 249) ((solidChars source).map Token.sign)
        s.env.withoutOffsets ∧
      ((Session.compute source).result s).2 =
        { s with env := ((Session.compute source).result s).2.env } := by
  rw [result_compute_eq_lineWithin hs, ← withoutOffsets_tokenize, lineWithin_withoutOffsets]
  exact ⟨rfl, rfl⟩

theorem compute_eq_ok_iff_lineWithin {s : Session}
    (hs : s.pipeline = Pipeline.standard.withVariables) {source : String} {n : Number} :
    ((Session.compute source).result s).1 = .ok n ↔
      (lineWithin ((solidChars source).length + 249) ((solidChars source).map Token.sign)
        s.env.withoutOffsets).1 = .ok n := by
  rw [eq_ok_iff_withoutOffsets, ← (withoutOffsets_compute_withVariables hs source).1]

end Calculator
