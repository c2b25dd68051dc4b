import Calculator.Proofs.Groups
import Calculator.Proofs.Scanning
import Calculator.Session

/-! Evaluation as a function.  Unobserved runs of the two pipelines are described by
`evaluateWithin`, which has no state: plain arithmetic never looks at the environment, and once the
assignments of a line have been carried out the runs of its groups only read it. -/

namespace Calculator

/-- The tokens with all digits read as numbers. -/
def readNumbers (tokens : List Token) : Except Failure (List Token) :=
  convertNumerals (mergeDigits tokens)

/-- What the passes of plain arithmetic make of some tokens, given what runs of groups give. -/
def arithmetic (inner : List Token → Except Failure (List Token)) (tokens : List Token) :
    Except Failure (List Token) := do
  let numbers ← readNumbers tokens
  let flat ← (groupPlan [] numbers).carryOut inner
  reduce flat

/-- Evaluation in which at most `depth` evaluations lie inside each other; `prepare` is what is done
to the tokens of each before plain arithmetic. -/
def evaluateWithin (prepare : List Token → List Token) :
    Nat → List Token → Except Failure (List Token)
  | 0, _ => .error .nestedTooDeep
  | depth + 1, tokens => arithmetic (evaluateWithin prepare depth) (prepare tokens)

/-! ### What evaluation leaves -/

theorem mem_of_mem_foldFrom {isSign : Token → Bool}
    {operation : Number → Token → Number → Except Failure Number} {left : Token}
    {tokens folded : List Token} (h : foldFrom isSign operation left tokens = .ok folded)
    {t : Token} (ht : t ∈ folded) : t ∈ left :: tokens ∨ t.isNumber = true := by
  induction left, tokens using foldFrom.induct isSign generalizing folded with
  | case1 left =>
    cases h
    exact .inl ht
  | case2 left u =>
    cases h
    exact .inl ht
  | case3 left u right rest hu ih =>
    rw [foldFrom_cons_of_sign operation hu, Except.bind_eq_ok_iff] at h
    obtain ⟨n, -, h⟩ := h
    rcases ih n h ht with hmem | hnum
    · rcases List.mem_cons.mp hmem with rfl | hmem
      · exact .inr rfl
      · exact .inl (by simp [hmem])
    · exact .inr hnum
  | case4 left u right rest hu ih =>
    rw [foldFrom_cons_of_not_sign operation (by simpa using hu), Except.bind_eq_ok_iff] at h
    obtain ⟨folded', hfolded, h⟩ := h
    cases h
    rcases List.mem_cons.mp ht with rfl | ht
    · exact .inl (by simp)
    · rcases ih hfolded ht with hmem | hnum
      · exact .inl (List.mem_cons_of_mem _ hmem)
      · exact .inr hnum

theorem mem_of_mem_signsFrom {afterNumber : Bool} {tokens : List Token} {t : Token}
    (ht : t ∈ signsFrom afterNumber tokens) : t ∈ tokens ∨ t.isNumber = true := by
  fun_induction signsFrom afterNumber tokens with
  | case1 => exact .inl ht
  | case2 afterNumber u n rest _ ih =>
    rcases List.mem_cons.mp ht with rfl | ht
    · exact .inr rfl
    · exact (ih ht).imp_left fun h => by simp [h]
  | case3 afterNumber u n rest _ ih =>
    rcases List.mem_cons.mp ht with rfl | ht
    · exact .inl (by simp)
    · exact (ih ht).imp_left fun h => List.mem_cons_of_mem _ h
  | case4 afterNumber u tokens _ ih =>
    rcases List.mem_cons.mp ht with rfl | ht
    · exact .inl (by simp)
    · exact (ih ht).imp_left fun h => List.mem_cons_of_mem _ h

/-- Only numbers come into being when tokens are reduced. -/
theorem mem_of_mem_reduce {tokens reduced : List Token} (h : reduce tokens = .ok reduced)
    {t : Token} (ht : t ∈ reduced) : t ∈ tokens ∨ t.isNumber = true := by
  have hfold : ∀ {isSign operation} {tokens folded : List Token},
      fold isSign operation tokens = .ok folded → t ∈ folded →
        t ∈ tokens ∨ t.isNumber = true := by
    intro isSign operation tokens folded h ht
    cases tokens with
    | nil =>
      cases h
      exact .inl ht
    | cons left tokens => exact mem_of_mem_foldFrom h ht
  obtain ⟨scaled, hscaled, hsums⟩ := Except.bind_eq_ok_iff.mp h
  rw [foldSums_eq_fold] at hsums
  rw [foldProducts_eq_fold] at hscaled
  rcases hfold hsums ht with ht | hnum
  · rcases hfold hscaled ht with ht | hnum
    · exact mem_of_mem_signsFrom ht
    · exact .inr hnum
  · exact .inr hnum

theorem Lacks.reduce {c : Char} {tokens reduced : List Token} (h : Lacks c tokens)
    (hr : Calculator.reduce tokens = .ok reduced) : Lacks c reduced := by
  intro t ht
  rcases mem_of_mem_reduce hr ht with ht | hnum
  · exact h t ht
  · cases t <;> simp_all [Token.isNumber]

theorem noClose_of_evaluateWithin {prepare : List Token → List Token} {depth : Nat}
    {tokens result : List Token} (h : evaluateWithin prepare depth tokens = .ok result) :
    Lacks ')' result := by
  induction depth generalizing tokens result with
  | zero => cases h
  | succ depth ih =>
    obtain ⟨numbers, -, h⟩ := Except.bind_eq_ok_iff.mp h
    obtain ⟨flat, hflat, h⟩ := Except.bind_eq_ok_iff.mp h
    exact ((groupTrace_of_carryOut hflat).noClose (fun _ _ _ h => ih h) .nil).reduce h

/-! ### Unobserved runs -/

section Runs

variable {inner : List Token → Run Unit (List Token)} {s : RunState Unit}

@[simp] theorem result_report_silent (event : Event) (s : RunState Unit) :
    (Run.report .silent event).result s = (.ok (), s) := rfl

/-- Nothing is noticed of a pass in an unobserved run. -/
@[simp] theorem result_applyReported_silent (p : Pass) (tokens : List Token) :
    (Pipeline.applyReported .silent inner p tokens).result s =
      (Pipeline.apply inner p tokens).result s := by
  unfold Pipeline.applyReported
  split
  · simp only [Action.result_bind, result_report_silent]
    rcases (Pipeline.apply inner p tokens).result s with ⟨_ | result, s'⟩ <;> rfl
  · rfl

theorem result_runPasses_cons (p : Pass) (passes : List Pass) (tokens : List Token) :
    (Pipeline.runPasses .silent inner (p :: passes) tokens).result s =
      match (Pipeline.apply inner p tokens).result s with
      | (.ok result, s') => (Pipeline.runPasses .silent inner passes result).result s'
      | (.error e, s') => (.error e, s') := by
  rw [Pipeline.runPasses_cons, Action.result_bind, result_applyReported_silent]
  rcases (Pipeline.apply inner p tokens).result s with ⟨_ | result, s'⟩ <;> rfl

@[simp] theorem result_apply_ofFunction (name : String)
    (f : List Token → Except Failure (List Token)) (tokens : List Token) :
    (Pipeline.apply inner (.ofFunction name f) tokens).result s = (f tokens, s) := rfl

/-- The runs of groups, when they give what `group` gives and leave the state alone. -/
theorem result_groups {group : List Token → Except Failure (List Token)}
    (hinner : ∀ tokens, Lacks ')' tokens → (inner tokens).result s = (group tokens, s))
    (hgroup : ∀ tokens result, group tokens = .ok result → Lacks ')' result)
    {output : List Token} (ho : Lacks ')' output) (tokens : List Token) :
    ((groupPlan output tokens).carryOut inner).result s =
      ((groupPlan output tokens).carryOut group, s) := by
  induction tokens generalizing output with
  | nil => rfl
  | cons t tokens ih =>
    rw [groupPlan]
    split
    · split
      · rfl
      · rename_i content below hopen
        obtain ⟨paren, -, rfl, -⟩ := openGroup?_eq_some hopen
        obtain ⟨hcontent, hbelow⟩ := List.forall_mem_append.mp ho
        simp only [Plan.carryOut_run, Action.result_bind, hinner _ (Lacks.reverse hcontent)]
        cases hr : group content.reverse with
        | error f => rfl
        | ok result =>
          exact ih ((hgroup _ _ hr).reverse.append (List.forall_mem_cons.mp hbelow).2)
    · rename_i ht
      exact ih (ho.cons (by simpa using ht))

theorem result_arithmetic {group : List Token → Except Failure (List Token)}
    (hinner : ∀ tokens, Lacks ')' tokens → (inner tokens).result s = (group tokens, s))
    (hgroup : ∀ tokens result, group tokens = .ok result → Lacks ')' result) (tokens : List Token) :
    (Pipeline.runPasses .silent inner Pass.arithmetic tokens).result s =
      (arithmetic group tokens, s) := by
  have hbrackets : ∀ tokens, (Pipeline.apply inner .brackets tokens).result s =
      ((groupPlan [] tokens).carryOut group, s) := result_groups hinner hgroup .nil
  simp only [Pass.arithmetic, Pipeline.runPasses_cons, Pipeline.runPasses_nil, Action.result_bind,
    result_applyReported_silent, Pass.mergeDigits, Pass.convertNumerals, Pass.unaryMinus,
    Pass.foldMultiplicative, Pass.foldAdditive, result_apply_ofFunction, arithmetic, readNumbers,
    reduce]
  cases convertNumerals (mergeDigits tokens) with
  | error f => rfl
  | ok numbers =>
    simp only [hbrackets, Except.ok_bind]
    cases (groupPlan [] numbers).carryOut group with
    | error f => rfl
    | ok flat =>
      simp only [Except.ok_bind]
      cases foldProducts (applySigns flat) with
      | error f => rfl
      | ok scaled =>
        simp only [Except.ok_bind]
        cases foldSums scaled <;> rfl

end Runs

/-- The standard pipeline runs as the function does and leaves the state alone. -/
theorem result_runWithin_standard (depth : Nat) (tokens : List Token) (s : RunState Unit) :
    (Pipeline.runWithin .silent .standard depth tokens).result s =
      (evaluateWithin id depth tokens, s) := by
  induction depth generalizing tokens with
  | zero => rfl
  | succ depth ih =>
    exact result_arithmetic (fun tokens _ => ih tokens)
      (fun _ _ h => noClose_of_evaluateWithin h) tokens

/-! ### Runs with variables -/

def keywordsOnto (output tokens : List Token) : List Token :=
  (Window.scanOnto (m := Id) (keywordPattern.map Window.Place.test)
    (fun _ => pure [.symbol setKeyword]) output tokens).run

/-- The tokens with their keywords made. -/
def keywords (tokens : List Token) : List Token := keywordsOnto [] tokens

def assignmentsOnto (output tokens : List Token) : Edit (List Token) :=
  Window.scanOnto (assignmentPattern.map Window.Place.test) assignmentWindow output tokens

/-- Carries out the assignments in some tokens. -/
def assignments (tokens : List Token) : Edit (List Token) := assignmentsOnto [] tokens

/-- The tokens with their names resolved. -/
def resolveNames (env : Environment) (tokens : List Token) : List Token :=
  (keywords tokens).map env.resolve

theorem scanPattern_keywordPattern (tokens : List Token) :
    Window.scanPattern keywordPattern keywordWindow tokens = pure (keywords tokens) :=
  Window.scanOnto_pure (fun _ => rfl) [] tokens

/-- The tests of the keyword before its last letter. -/
theorem keywordTests : keywordPattern.map Window.Place.test =
    (keywordPattern.take 2).map Window.Place.test ++ [Token.isChar 't'] := by
  have h : (Window.Place.literal (.char 't' none)).test = Token.isChar 't' :=
    funext fun t => Window.test_literal_char 't' none t
  rw [← h]
  rfl

/-- The tests of the keyword, one for each letter. -/
theorem keywordTests_letters : keywordPattern.map Window.Place.test =
    [Token.isChar 's', Token.isChar 'e', Token.isChar 't'] := by
  have h : ∀ c, (Window.Place.literal (.char c none)).test = Token.isChar c :=
    fun c => funext fun t => Window.test_literal_char c none t
  rw [← h, ← h, ← h]
  rfl

/-- The tests of an assignment before its closing parenthesis. -/
theorem assignmentTests : assignmentPattern.map Window.Place.test =
    (assignmentPattern.take 5).map Window.Place.test ++ [Token.isChar ')'] := by
  have h : (Window.Place.literal (.char ')' none)).test = Token.isChar ')' :=
    funext fun t => Window.test_literal_char ')' none t
  rw [← h]
  rfl

/-- Tokens that cannot be the last letter of a keyword go to the output. -/
theorem keywordsOnto_append {tokens : List Token} (h : Lacks 't' tokens)
    (output rest : List Token) :
    keywordsOnto output (tokens ++ rest) = keywordsOnto (tokens.reverse ++ output) rest := by
  rw [keywordsOnto, keywordsOnto, keywordTests]
  exact congrArg Id.run (Window.scanOnto_append_of_last (m := Id) _ _ h output rest)

theorem keywords_of_lacks {tokens : List Token} (h : Lacks 't' tokens) :
    keywords tokens = tokens := by
  have happend := keywordsOnto_append h [] []
  rw [List.append_nil, List.append_nil] at happend
  rw [keywords, happend]
  simp [keywordsOnto, Window.scanOnto]

/-- The letters of the keyword are names, so that without names no keyword is made. -/
theorem keywords_of_not_isName {tokens : List Token} (h : ∀ t ∈ tokens, t.isName = false) :
    keywords tokens = tokens := by
  refine keywords_of_lacks fun t ht => ?_
  rw [← Bool.not_eq_true, Token.isChar_iff]
  rintro ⟨p, rfl⟩
  have hname : (Token.char 't' p).isName = true := (Token.isName_char 't' p).trans (by decide)
  rw [h _ ht] at hname
  cases hname

theorem resolveNames_of_not_isName (env : Environment) {tokens : List Token}
    (h : ∀ t ∈ tokens, t.isName = false) : resolveNames env tokens = tokens := by
  rw [resolveNames, keywords_of_not_isName h, Environment.map_resolve_of_not_isName h]

theorem assignmentsOnto_append {tokens : List Token} (h : Lacks ')' tokens)
    (output rest : List Token) :
    assignmentsOnto output (tokens ++ rest) = assignmentsOnto (tokens.reverse ++ output) rest := by
  rw [assignmentsOnto, assignmentsOnto, assignmentTests]
  exact Window.scanOnto_append_of_last _ _ h output rest

theorem assignments_of_lacks {tokens : List Token} (h : Lacks ')' tokens) :
    assignments tokens = pure tokens := by
  have happend := assignmentsOnto_append h [] []
  rw [List.append_nil, List.append_nil] at happend
  rw [assignments, happend]
  simp [assignmentsOnto, Window.scanOnto]

theorem mem_of_mem_keywords {t : Token} {tokens : List Token} (h : t ∈ keywords tokens) :
    t ∈ tokens ∨ t = .symbol setKeyword := by
  rcases Window.mem_of_mem_scanOnto h with h | h | ⟨-, h⟩
  · cases h
  · exact .inl h
  · exact .inr (List.mem_singleton.mp h)

theorem Lacks.keywords {c : Char} {tokens : List Token} (h : Lacks c tokens) :
    Lacks c (Calculator.keywords tokens) := by
  intro t ht
  rcases mem_of_mem_keywords ht with ht | rfl
  · exact h t ht
  · rfl

/-- Where there is no keyword, none was made. -/
theorem keywords_eq_self {tokens : List Token} (h : .symbol setKeyword ∉ keywords tokens) :
    keywords tokens = tokens := by
  have htests : ∀ test ∈ keywordPattern.map Window.Place.test,
      test (.symbol setKeyword) = false := by
    decide
  exact Window.scanOnto_eq_of_not_mem htests (fun _ => List.mem_singleton_self _) h

section Runs

variable {inner : List Token → Run Unit (List Token)} {s : RunState Unit}

/-- The passes of the pipeline with variables: the assignments of the tokens are carried out, and
with the environment that they leave the rest is plain arithmetic. -/
theorem result_withVariables (tokens : List Token) :
    (Pipeline.runPasses .silent inner Pipeline.standard.withVariables.passes tokens).result s =
      match (assignments (keywords tokens)).result s.env with
      | (.ok resolved, env) =>
          (Pipeline.runPasses .silent inner Pass.arithmetic (resolved.map env.resolve)).result
            { s with env }
      | (.error e, env) => (.error e, { s with env }) := by
  have hword : (Pipeline.apply inner .setWord tokens).result s = (.ok (keywords tokens), s) := by
    change (Run.edit (Window.scanPattern keywordPattern keywordWindow tokens)).result s = _
    rw [scanPattern_keywordPattern]
    rfl
  have hassign : (Pipeline.apply inner .setVariable (keywords tokens)).result s =
      (((assignments (keywords tokens)).result s.env).1,
        { s with env := ((assignments (keywords tokens)).result s.env).2 }) := rfl
  rw [Pipeline.passes_withVariables, Pipeline.passes_standard, List.cons_append,
    result_runPasses_cons, hword]
  simp only
  rw [List.cons_append, result_runPasses_cons, hassign]
  rcases (assignments (keywords tokens)).result s.env with ⟨_ | resolved, env⟩
  · rfl
  · simp only
    rw [List.cons_append, result_runPasses_cons]
    rfl

end Runs

/-- Runs of groups in the pipeline with variables leave the state alone. -/
theorem result_runWithin_withVariables (depth : Nat) {tokens : List Token} (h : Lacks ')' tokens)
    (s : RunState Unit) :
    (Pipeline.runWithin .silent Pipeline.standard.withVariables depth tokens).result s =
      (evaluateWithin (resolveNames s.env) depth tokens, s) := by
  induction depth generalizing tokens with
  | zero => rfl
  | succ depth ih =>
    rw [Pipeline.runWithin, result_withVariables, assignments_of_lacks h.keywords]
    exact result_arithmetic (fun tokens h => ih h) (fun _ _ h => noClose_of_evaluateWithin h) _

/-- A run of the pipeline with variables: after the assignments, evaluation only reads the
environment. -/
theorem result_runWithin_succ_withVariables (depth : Nat) (tokens : List Token)
    (s : RunState Unit) :
    (Pipeline.runWithin .silent Pipeline.standard.withVariables (depth + 1) tokens).result s =
      match (assignments (keywords tokens)).result s.env with
      | (.ok resolved, env) =>
          (arithmetic (evaluateWithin (resolveNames env) depth) (resolved.map env.resolve),
            { s with env })
      | (.error e, env) => (.error e, { s with env }) := by
  rw [Pipeline.runWithin, result_withVariables]
  rcases (assignments (keywords tokens)).result s.env with ⟨_ | resolved, env⟩
  · rfl
  · exact result_arithmetic (fun tokens h => result_runWithin_withVariables depth h _)
      (fun _ _ h => noClose_of_evaluateWithin h) _

/-! ### Lines -/

theorem result_compute (s : Session) (source : String) :
    (Session.compute source).result s =
      (((Session.evaluate source).result s).1 >>= finalValue,
        ((Session.evaluate source).result s).2) := by
  rw [Session.compute, Action.result_bind]
  rcases (Session.evaluate source).result s with ⟨_ | tokens, s'⟩ <;> rfl

@[simp] theorem pipeline_compute (source : String) (s : Session) :
    ((Session.compute source).result s).2.pipeline = s.pipeline := by
  rw [result_compute]
  rfl

/-- There is a value where one number is left. -/
theorem value_eq_ok_iff {outcome : Except Failure (List Token)} {n : Number} :
    (do
      let reduced ← outcome
      finalValue reduced) = .ok n ↔ outcome = .ok [.number n] := by
  constructor
  · intro h
    obtain ⟨reduced, hreduced, hfinal⟩ := Except.bind_eq_ok_iff.mp h
    rw [hreduced, finalValue_eq_ok_iff.mp hfinal]
  · rintro rfl
    rfl

theorem result_evaluate_standard {s : Session} (h : s.pipeline = .standard) (source : String) :
    (Session.evaluate source).result s =
      (evaluateWithin id (Pipeline.depthFor (tokenize source)) (tokenize source), s) := by
  obtain ⟨settings, pipeline, env⟩ := s
  obtain rfl : pipeline = .standard := h
  simp only [Session.evaluate, Action.result_bind, Action.result_get, Session.result_edit,
    Pipeline.runSilently, Action.result_onPart, Pipeline.run, result_runWithin_standard]

theorem result_compute_standard {s : Session} (h : s.pipeline = .standard) (source : String) :
    (Session.compute source).result s =
      ((do
        let reduced ← evaluateWithin id (Pipeline.depthFor (tokenize source)) (tokenize source)
        finalValue reduced), s) := by
  rw [result_compute, result_evaluate_standard h]

theorem result_evaluate_withVariables {s : Session}
    (h : s.pipeline = Pipeline.standard.withVariables) (source : String) :
    (Session.evaluate source).result s =
      match (assignments (keywords (tokenize source))).result s.env with
      | (.ok resolved, env) =>
          (arithmetic (evaluateWithin (resolveNames env) ((tokenize source).length + 249))
            (resolved.map env.resolve), { s with env })
      | (.error e, env) => (.error e, { s with env }) := by
  have hrun : (Session.evaluate source).result s =
      ((Pipeline.runWithin .silent Pipeline.standard.withVariables
          ((tokenize source).length + 249 + 1) (tokenize source)).result ⟨s.env, ()⟩).map id
        fun state => { s with env := state.env } := by
    simp only [Session.evaluate, Action.result_bind, Action.result_get, Session.result_edit,
      Pipeline.runSilently, Action.result_onPart, h, Pipeline.run]
    rfl
  rw [hrun, result_runWithin_succ_withVariables]
  rcases (assignments (keywords (tokenize source))).result s.env with ⟨_ | resolved, env⟩ <;> rfl

theorem result_compute_withVariables {s : Session}
    (h : s.pipeline = Pipeline.standard.withVariables) (source : String) :
    (Session.compute source).result s =
      match (assignments (keywords (tokenize source))).result s.env with
      | (.ok resolved, env) =>
          ((do
            let reduced ← arithmetic
              (evaluateWithin (resolveNames env) ((tokenize source).length + 249))
              (resolved.map env.resolve)
            finalValue reduced), { s with env })
      | (.error e, env) => (.error e, { s with env }) := by
  rw [result_compute, result_evaluate_withVariables h]
  rcases (assignments (keywords (tokenize source))).result s.env with ⟨_ | resolved, env⟩ <;> rfl

end Calculator
