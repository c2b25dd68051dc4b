import Calculator.Proofs.Inheritance

/-! Writes to the environment.  A run writes to it in one place, where the assignments of its own
list are carried out.  A group ends at the closing parenthesis that is missing from it, and what a
run leaves has none either; so the list that a run of a group is given never holds an assignment,
whatever tokens are bound. -/

namespace Calculator

variable {σ : Type} {env : Environment} {list : List Token → Prop}

/-- The environment stays as it is.  Groups and what comes out of their runs lack the parenthesis
that would end an assignment. -/
def frozen (env : Environment) (list : List Token → Prop) : Contract where
  env := fun other => other = env
  list := list
  group := Lacks ')'
  result := fun _ => Lacks ')'
  fails := fun _ => True

/-- What is made while tokens are combined is no parenthesis. -/
theorem inherited_noClose : Inherited (fun t => t.isChar ')' = false) fun _ => True :=
  inherited_of_made (fun _ => rfl) fun _ => rfl

theorem meets_any {α : Type} (x : Except Failure α) : Meets (fun _ => True) (fun _ => True) x := by
  cases x <;> trivial

/-! ### Passes -/

theorem frozen_groupPlan (tokens : List Token) :
    (groupPlan [] tokens).Obeys (frozen env (Lacks ')')) := by
  refine obeys_groupPlan_of (fun output _ => Lacks ')' output) ?done ?push ?unmatched ?close .nil
  case done => exact fun h => h.reverse
  case push => exact fun ht h => h.cons ht
  case unmatched => exact fun _ _ _ => trivial
  case close =>
    intro group below paren t tokens _ _ _ h
    obtain ⟨hgroup, hbelow⟩ := List.forall_mem_append.mp h
    exact ⟨Lacks.reverse hgroup, fun result hresult =>
      Lacks.append (Lacks.reverse hresult) (List.forall_mem_cons.mp hbelow).2⟩

/-- Where tokens lack the parenthesis, no assignment ends. -/
theorem frozen_assigning :
    ∀ p ∈ [Pass.setWord, .setVariable], p.Obeys (frozen env (Lacks ')')) := by
  intro p hp
  simp only [List.mem_cons, List.not_mem_nil, or_false] at hp
  rcases hp with rfl | rfl
  · intro tokens h
    show (Window.scanPattern keywordPattern keywordWindow tokens).Keeps _ _ _
    rw [scanPattern_keywordPattern]
    exact Action.keeps_pure h.keywords
  · intro tokens h
    show (assignments tokens).Keeps _ _ _
    rw [assignments_of_lacks h]
    exact Action.keeps_pure h

/-- Bound tokens may be parentheses, so nothing is said of the lists here. -/
theorem frozen_reading : ∀ p ∈ [Pass.useVariable, .mergeDigits, .convertNumerals],
    p.Obeys (frozen env fun _ => True) := by
  intro p hp
  simp only [List.mem_cons, List.not_mem_nil, or_false] at hp
  rcases hp with rfl | rfl | rfl
  · exact fun _ _ _ hs => ⟨hs, trivial⟩
  · exact Pass.obeys_ofFunction fun _ _ => trivial
  · exact Pass.obeys_ofFunction fun _ _ => meets_any _

theorem frozen_reducing : ∀ p ∈ [Pass.unaryMinus, .foldMultiplicative, .foldAdditive],
    p.Obeys (frozen env (Lacks ')')) := by
  intro p hp
  simp only [List.mem_cons, List.not_mem_nil, or_false] at hp
  rcases hp with rfl | rfl | rfl
  · exact Pass.obeys_ofFunction fun _ h => inherited_noClose.applySigns h
  · exact Pass.obeys_ofFunction fun _ h => inherited_noClose.foldProducts h
  · exact Pass.obeys_ofFunction fun _ h => inherited_noClose.foldSums h

/-! ### Runs of groups -/

namespace Pipeline

variable {o : Observer σ} {inner : List Token → Run σ (List Token)}
  (hinner : ∀ group, Lacks ')' group →
    (inner group).Keeps (fun s => s.env = env) (Lacks ')') fun _ => True)
include hinner

theorem keeps_frozen {passes : List Pass} (hp : ∀ p ∈ passes, p.Obeys (frozen env list))
    {tokens : List Token} (h : list tokens) :
    (runPasses o inner passes tokens).Keeps (fun s => s.env = env) list fun _ => True := by
  let c := frozen env list
  have hgroups : ∀ group, c.group group →
      (inner group).Keeps (fun s => c.env s.env) (c.result group) c.fails := hinner
  exact keeps_runPasses hgroups (fun _ _ => meets_any _) hp h

/-- After the assignments a run only reads the environment, and no closing parenthesis is left. -/
theorem keeps_reading (tokens : List Token) :
    (runPasses o inner (.useVariable :: Pass.arithmetic) tokens).Keeps (fun s => s.env = env)
      (Lacks ')') fun _ => True := by
  have hbrackets : ∀ numbers, (applyReported o inner .brackets numbers).Keeps
      (fun s => s.env = env) (Lacks ')') fun _ => True := by
    intro numbers
    have hplan : (groupPlan [] numbers).Obeys (frozen env (Lacks ')')) := frozen_groupPlan numbers
    exact keeps_reported (fun _ _ hs => ⟨hs, meets_any _⟩) (hplan.carryOut hinner)
  have hsplit : Pass.useVariable :: Pass.arithmetic =
      [.useVariable, .mergeDigits, .convertNumerals] ++
        .brackets :: [.unaryMinus, .foldMultiplicative, .foldAdditive] := rfl
  -- Parentheses that are bound come in with the names and are gone after the groups.
  rw [hsplit, runPasses_append]
  refine (keeps_frozen hinner frozen_reading trivial).bind fun numbers _ => ?_
  rw [runPasses_cons]
  refine (hbrackets numbers).bind fun flat hflat => ?_
  exact keeps_frozen hinner frozen_reducing hflat

end Pipeline

/-- A run of a group leaves the environment as it is. -/
theorem Pipeline.keeps_group {o : Observer σ} (depth : Nat) {group : List Token}
    (h : Lacks ')' group) :
    (runWithin o standard.withVariables depth group).Keeps (fun s => s.env = env) (Lacks ')')
      fun _ => True := by
  induction depth generalizing group with
  | zero => exact Action.keeps_throw trivial
  | succ depth ih =>
    have hsplit : standard.withVariables.passes =
        [.setWord, .setVariable] ++ .useVariable :: Pass.arithmetic := rfl
    rw [runWithin, hsplit, runPasses_append]
    refine (keeps_frozen (fun _ hg => ih hg) frozen_assigning h).bind fun words _ => ?_
    exact keeps_reading (fun _ hg => ih hg) words

/-! ### Whole runs -/

/-- What the passes for keywords and assignments do on their own, one after the other. -/
def assigning (tokens : List Token) : Edit (List Token) := do
  let words ← Pass.setWord.call tokens
  Pass.setVariable.call words

theorem assigning_eq (tokens : List Token) : assigning tokens = assignments (keywords tokens) := by
  have hword : Pass.setWord.call tokens = pure (keywords tokens) :=
    scanPattern_keywordPattern tokens
  rw [assigning, hword, pure_bind]
  rfl

/-- What an observer is told before the assignments are carried out. -/
def reportedBefore (o : Observer σ) (tokens : List Token) : Action σ Unit := do
  o.notice (.before Pass.setWord.name tokens)
  o.notice (.after Pass.setWord.name tokens (keywords tokens))
  o.notice (.before Pass.setVariable.name (keywords tokens))

namespace Pipeline

variable {o : Observer σ} {inner : List Token → Run σ (List Token)}

/-- The passes that come first, with their reports. -/
theorem runPasses_assigning (tokens : List Token) :
    runPasses o inner [.setWord, .setVariable] tokens = (do
      Run.report o (.before Pass.setWord.name tokens)
      Run.report o (.after Pass.setWord.name tokens (keywords tokens))
      Run.report o (.before Pass.setVariable.name (keywords tokens))
      let resolved ← Run.edit (assignments (keywords tokens))
      Run.report o (.after Pass.setVariable.name (keywords tokens) resolved)
      pure resolved) := by
  have hword : apply inner .setWord tokens = pure (keywords tokens) :=
    congrArg Run.edit (scanPattern_keywordPattern tokens)
  have hassign : apply inner .setVariable (keywords tokens) =
      Run.edit (assignments (keywords tokens)) := rfl
  have hsetWord : Pass.setWord.traceable = true := rfl
  have hsetVariable : Pass.setVariable.traceable = true := rfl
  simp only [runPasses_cons, runPasses_nil, applyReported_of_traceable hsetWord,
    applyReported_of_traceable hsetVariable, hword, hassign, bind_assoc, pure_bind, bind_pure]

/-- The environment after the passes that come first is the one after the assignments, unless the
observer stops the run before them. -/
theorem env_assigning (tokens : List Token) (s : RunState σ) :
    ((runPasses o inner [.setWord, .setVariable] tokens).result s).2.env =
      match ((reportedBefore o tokens).result s.noted).1 with
      | .ok _ => ((assigning tokens).result s.env).2
      | .error _ => s.env := by
  simp only [runPasses_assigning, reportedBefore, assigning_eq, Action.result_bind,
    Run.result_report, Run.result_edit, Action.result_pure]
  rcases (o.notice (.before Pass.setWord.name tokens)).result s.noted with ⟨_ | _, noted⟩
  · rfl
  simp only
  rcases (o.notice (.after Pass.setWord.name tokens (keywords tokens))).result noted with
    ⟨_ | _, noted⟩
  · rfl
  simp only
  rcases (o.notice (.before Pass.setVariable.name (keywords tokens))).result noted with
    ⟨_ | _, noted⟩
  · rfl
  simp only
  rcases (assignments (keywords tokens)).result s.env with ⟨_ | resolved, env⟩
  · rfl
  simp only
  rcases (o.notice (.after Pass.setVariable.name (keywords tokens) resolved)).result noted with
    ⟨_ | _, noted⟩ <;> rfl

end Pipeline

/-- The environment is written to once: after a run it is as the assignments of its list leave it,
be they stopped themselves or the run after them.  The passes after them write nothing, whatever
tokens names stand for, and the lists that are run for groups hold no assignment on any level. -/
theorem Pipeline.assigns_once (o : Observer σ) (tokens : List Token) (s : RunState σ) :
    ((run o standard.withVariables tokens).result s).2.env =
      (match ((reportedBefore o tokens).result s.noted).1 with
      | .ok _ => ((assigning tokens).result s.env).2
      | .error _ => s.env) ∧
    ∀ depth, let inner := runWithin o standard.withVariables depth
      (∀ words state,
        ((runPasses o inner (.useVariable :: Pass.arithmetic) words).result state).2.env =
          state.env) ∧
      ∀ given state group, (groupPlan [] given).Runs inner state group →
        assigning group = pure (keywords group) ∧
          ∀ state, ((inner group).result state).2.env = state.env := by
  have hinner : ∀ depth env group, Lacks ')' group →
      (runWithin o standard.withVariables depth group).Keeps (fun s => s.env = env) (Lacks ')')
        fun _ => True := fun depth _ _ hg => keeps_group depth hg
  constructor
  · let depth := tokens.length + 249
    have hrun : run o standard.withVariables tokens = (do
        let words ← runPasses o (runWithin o standard.withVariables depth)
          [.setWord, .setVariable] tokens
        runPasses o (runWithin o standard.withVariables depth)
          (.useVariable :: Pass.arithmetic) words) := by
      rw [← runPasses_append]
      rfl
    rw [hrun, Action.result_bind, ← env_assigning tokens s]
    rcases (runPasses o (runWithin o standard.withVariables depth)
      [.setWord, .setVariable] tokens).result s with ⟨_ | words, s'⟩
    · rfl
    · exact (keeps_reading (hinner depth s'.env) words s' rfl).1
  · intro depth inner
    constructor
    · exact fun words state => (keeps_reading (hinner depth state.env) words state rfl).1
    · intro given state group hruns
      have hplan : (groupPlan [] given).Obeys (frozen state.env (Lacks ')')) :=
        frozen_groupPlan given
      have hgroup : Lacks ')' group := hplan.group_of_runs (hinner depth state.env) rfl hruns
      constructor
      · rw [assigning_eq, assignments_of_lacks hgroup.keywords]
      · exact fun state => (hinner depth state.env group hgroup state rfl).1

end Calculator
