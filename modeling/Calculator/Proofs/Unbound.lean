import Mathlib.Control.Monad.Basic
import Calculator.Proofs.Lines

/-! Names that are said not to be bound.  The environment of a line is what its assignments leave.
A name that is left after it has been looked up there is not bound, or it is what some name stands
for: bound tokens are not looked up again, except those of groups. -/

namespace Calculator

/-- A name is not bound, unless it is itself what some name stands for. -/
def Environment.Leaves (env : Environment) (t : Token) : Prop :=
  ∀ name, t.name? = some name → env.get? name = none ∨ ∃ other, env.get? other = some t

theorem Environment.leaves_resolve (env : Environment) (t : Token) :
    env.Leaves (env.resolve t) := by
  intro name hname
  rw [Environment.resolve] at hname ⊢
  cases ht : t.name? with
  | none =>
    simp only [ht] at hname
    cases hname
  | some key =>
    simp only [ht] at hname ⊢
    cases hkey : env.get? key with
    | none =>
      rw [hkey, Option.getD_none, ht] at hname
      rw [← Option.some.inj hname]
      exact .inl hkey
    | some u => exact .inr ⟨key, hkey⟩

/-- A name that a failure calls unbound is that of the token it points at, which the environment
leaves. -/
def Failure.IsTruthful (env : Environment) (f : Failure) : Prop :=
  ∀ name t, f = .at (.unbound name) t → t.name? = some name ∧ env.Leaves t

theorem inherited_leaves (env : Environment) :
    Inherited env.Leaves (Failure.IsTruthful env) where
  number := nofun
  joined := nofun
  unreadable := nofun
  blamed := by
    intro t cause ht hname name u he
    have he := EvaluationError.mk.inj (Failure.evaluation.inj he)
    obtain ⟨rfl, hu⟩ := he
    obtain rfl := Option.some.inj hu
    exact ⟨hname, ht⟩
  empty := nofun
  overflow := nofun
  unwritable := nofun

/-- Assignments call no name unbound. -/
theorem ne_unbound_of_assignments {tokens : List Token} {env env' : Environment} {f : Failure}
    (h : (assignments tokens).result env = (.error f, env')) (name : String) (t : Token) :
    f ≠ .at (.unbound name) t := by
  have hkeeps : (assignments tokens).Keeps (Environment.Binds fun _ => True)
      (Every fun _ => True) fun f => ∀ name t, f ≠ .at (.unbound name) t :=
    keeps_assignments (fun _ _ _ _ _ h => by cases h) nofun fun _ _ => trivial
  obtain ⟨-, hfails⟩ := hkeeps env fun _ _ _ => trivial
  rw [h] at hfails
  exact hfails name t

/-- A name that a line calls unbound is not bound after the line, unless the token that the line
points at is what another name stands for. -/
theorem unbound_of_compute {s : Session} (hs : s.pipeline = Pipeline.standard.withVariables)
    {source name : String} {t : Token}
    (h : ((Session.compute source).result s).1 = .error (.at (.unbound name) t)) :
    t.name? = some name ∧
      (((Session.compute source).result s).2.env.get? name = none ∨
        ∃ other, ((Session.compute source).result s).2.env.get? other = some t) := by
  rw [result_compute_withVariables hs] at h ⊢
  cases hassign : (assignments (keywords (tokenize source))).result s.env with
  | mk assigned env =>
    rw [hassign] at h
    cases assigned with
    | error f => exact absurd (Except.error.inj h) (ne_unbound_of_assignments hassign name t)
    | ok assigned =>
      have H := inherited_leaves env
      have hleaves : ∀ tokens : List Token, Every env.Leaves (tokens.map env.resolve) := by
        intro tokens u hu
        obtain ⟨v, -, rfl⟩ := List.mem_map.mp hu
        exact env.leaves_resolve v
      have hgroup : ∀ tokens, Every env.Leaves tokens → Meets (Every env.Leaves)
          (Failure.IsTruthful env)
          (evaluateWithin (resolveNames env) ((tokenize source).length + 249) tokens) :=
        fun tokens ht => H.evaluateWithin nofun (fun tokens _ => hleaves (keywords tokens)) _ ht
      have hvalue := (H.evaluated hgroup (fun _ _ hr => noClose_of_evaluateWithin hr)
        (hleaves assigned)).bind fun reduced hreduced => H.finalValue hreduced
      simp only at h
      rw [h] at hvalue
      obtain ⟨hname, hbound⟩ := hvalue name t rfl
      exact ⟨hname, hbound name hname⟩

/-- The third line looks `x` up and finds the name `y`, which is bound by then. -/
theorem compute_storedName :
    ((Session.compute "x").result ((Session.start {}).after ["set(x,y)", "set(y,3)"])).1 =
        .error (.at (.unbound "y") (.char 'y' (some 6))) ∧
      ((Session.compute "x").result ((Session.start {}).after
        ["set(x,y)", "set(y,3)"])).2.env.get? "y" = some (.char '3' (some 6)) := by
  decide +kernel

theorem unbound_of_compute_storedName :
    ((Session.compute "x").result ((Session.start {}).after ["set(x,y)", "set(y,3)"])).1 =
        .error (.at (.unbound "y") (.char 'y' (some 6))) ∧
      ∃ other, ((Session.compute "x").result ((Session.start {}).after
        ["set(x,y)", "set(y,3)"])).2.env.get? other = some (.char 'y' (some 6)) := by
  obtain ⟨hfails, hbound⟩ := compute_storedName
  have hs : ((Session.start {}).after ["set(x,y)", "set(y,3)"]).pipeline =
      Pipeline.standard.withVariables := Session.pipeline_after _ _
  obtain ⟨-, hunbound⟩ := unbound_of_compute hs hfails
  refine ⟨hfails, hunbound.resolve_left fun hnone => ?_⟩
  rw [hbound] at hnone
  cases hnone

/-- A name can be bound that a line calls unbound. -/
theorem not_forall_unbound :
    ¬∀ (lines : List String) (source name : String) (t : Token),
      ((Session.compute source).result ((Session.start {}).after lines)).1 =
          .error (.at (.unbound name) t) →
        ((Session.compute source).result ((Session.start {}).after lines)).2.env.get? name =
          none := by
  intro h
  obtain ⟨hfails, hbound⟩ := compute_storedName
  rw [h _ _ _ _ hfails] at hbound
  cases hbound

end Calculator
