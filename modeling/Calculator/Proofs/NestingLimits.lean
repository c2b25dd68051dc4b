import Calculator.Proofs.Depth
import Calculator.Proofs.Lines

/-! Limits on nesting.  A run under a limit does what it does without one, or it is stopped for its
depth; and it can be stopped only where its list is at least twice as long as the limit. -/

namespace Calculator

variable {σ α β : Type}

namespace Action

/-- The action does what another one does, unless it is stopped for its depth. -/
def Cuts (x y : Action σ α) : Prop :=
  ∀ s, (x.result s).1 = .error .nestedTooDeep ∨ x.result s = y.result s

theorem Cuts.refl (x : Action σ α) : x.Cuts x := fun _ => .inr rfl

theorem Cuts.bind {x y : Action σ α} {f g : α → Action σ β} (h : x.Cuts y)
    (hf : ∀ a, (f a).Cuts (g a)) : (x >>= f).Cuts (y >>= g) := by
  intro s
  rw [result_bind, result_bind]
  rcases h s with hdeep | hsame
  · rcases hx : x.result s with ⟨r, s'⟩
    rw [hx] at hdeep
    subst hdeep
    exact .inl rfl
  · rw [← hsame]
    rcases x.result s with ⟨e | a, s'⟩
    · exact .inr rfl
    · exact hf a s'

end Action

/-! ### Runs -/

section Runs

variable {inner inner' : List Token → Run σ (List Token)}
  (h : ∀ tokens, (inner tokens).Cuts (inner' tokens))
include h

theorem Plan.cuts_carryOut (plan : Plan) : (plan.carryOut inner).Cuts (plan.carryOut inner') := by
  induction plan with
  | done tokens => exact .refl _
  | fail e => exact .refl _
  | run tokens next ih => exact (h tokens).bind ih

namespace Pipeline

theorem cuts_apply (p : Pass) (tokens : List Token) :
    (apply inner p tokens).Cuts (apply inner' p tokens) := by
  obtain ⟨name, traceable, body⟩ := p
  cases body with
  | edit f => exact .refl _
  | nested plan => exact (plan tokens).cuts_carryOut h

theorem cuts_applyReported (o : Observer σ) (p : Pass) (tokens : List Token) :
    (applyReported o inner p tokens).Cuts (applyReported o inner' p tokens) := by
  rw [applyReported, applyReported]
  split
  · exact (Action.Cuts.refl _).bind fun _ => (cuts_apply h p tokens).bind fun _ => .refl _
  · exact cuts_apply h p tokens

theorem cuts_runPasses (o : Observer σ) (passes : List Pass) (tokens : List Token) :
    (runPasses o inner passes tokens).Cuts (runPasses o inner' passes tokens) := by
  induction passes generalizing tokens with
  | nil => exact .refl _
  | cons p passes ih => exact (cuts_applyReported h o p tokens).bind ih

end Pipeline

end Runs

namespace Pipeline

/-- Under a lower limit a run does what it does under a higher one, unless it is stopped. -/
theorem cuts_runWithin (o : Observer σ) (l : Pipeline) {depth depth' : Nat} (h : depth ≤ depth')
    (tokens : List Token) : (runWithin o l depth tokens).Cuts (runWithin o l depth' tokens) := by
  induction depth generalizing depth' tokens with
  | zero => exact fun _ => .inl rfl
  | succ depth ih =>
    cases depth' with
    | zero => omega
    | succ depth' => exact cuts_runPasses (ih (Nat.le_of_succ_le_succ h)) o l.passes tokens

section Limits

variable {o : Observer σ} {l : Pipeline} {fails : Failure → Prop}
  (hfails : ∀ f, f ≠ .nestedTooDeep → fails f)
  (hp : ∀ n, ∀ p ∈ l.passes, p.Obeys (shrinking n))
  (ho : ∀ event noted, Meets (fun _ => True) fails ((o.notice event).result noted).1)
include hfails hp ho

/-- Under a limit a run does what it does without one, or it is stopped for its depth.  Then its
list is at least twice as long as the limit. -/
theorem run_limited (tokens : List Token) (limit : Option Nat) (s : RunState σ) :
    (run o l tokens limit).result s = (run o l tokens).result s ∨
      ((run o l tokens limit).result s).1 = .error .nestedTooDeep ∧
        ∃ depth, limit = some depth ∧ 2 * depth ≤ tokens.length := by
  cases limit with
  | none => exact .inl rfl
  | some depth =>
    by_cases hshort : tokens.length < 2 * depth
    · rw [run_eq_runWithin hfails hp ho hshort]
      exact .inl rfl
    · have hle : depth ≤ depthFor tokens := by
        rw [depthFor_unlimited]
        omega
      rcases cuts_runWithin o l hle tokens s with hdeep | hsame
      · exact .inr ⟨hdeep, depth, rfl, Nat.not_lt.mp hshort⟩
      · exact .inl hsame

end Limits

end Pipeline

/-! ### Lines -/

namespace Session

/-- Under a limit a line is handled as without one, or it is stopped for its depth.  Then it has at
least twice as many tokens as runs may nest. -/
theorem handle_limited (s : Session) (hp : ∀ n, ∀ p ∈ s.pipeline.passes, p.Obeys (shrinking n))
    (source : String) (limit : Option Nat) :
    s.handle source limit = s.handle source ∨
      (s.handle source limit).report = .error .nestedTooDeep ∧
        ∃ depth, limit = some depth ∧ 2 * depth ≤ (tokenize source).length := by
  have hfails : ∀ f : Failure, f ≠ .nestedTooDeep → f ≠ .nestedTooDeep := fun _ h => h
  rw [handle, handle]
  cases s.settings.tracer? s.instruments with
  | none =>
    have hrun := Pipeline.run_limited (o := .silent) hfails hp (fun _ _ => trivial)
      (tokenize source) limit ⟨s.env, ()⟩
    simp only [Pipeline.runSilently, Action.result_onPart]
    refine hrun.imp (fun hsame => ?_) (And.imp_left fun hdeep => ?_)
    · rw [hsame]
    · rw [hdeep]
      rfl
  | some t =>
    have htemplate : ∀ f, Failure.template f ≠ .nestedTooDeep := fun _ h => by cases h
    have hunwritable : Failure.unwritable ≠ .nestedTooDeep := fun h => by cases h
    have hrun := Pipeline.run_limited (o := t.observer) hfails hp
      (t.meets_notice htemplate hunwritable) (tokenize source) limit ⟨s.env, {}⟩
    refine hrun.imp (fun hsame => ?_) (And.imp_left fun hdeep => ?_)
    · dsimp only
      rw [hsame]
    · dsimp only
      rw [hdeep]
      rfl

end Session

end Calculator
