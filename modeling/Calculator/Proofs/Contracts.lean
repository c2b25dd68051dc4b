import Calculator.Arithmetic.Brackets
import Calculator.Pipeline
import Calculator.Proofs.Outcomes

/-! Contracts of passes.  A contract says what the passes of a pipeline keep true of lists and of
the environment, and on which lists a nested pass may have the pipeline run.  A run under any
observer keeps what its passes keep. -/

namespace Calculator

variable {σ : Type}

structure Contract where
  /-- What the environment is like before a pass and after it. -/
  env : Environment → Prop
  /-- What the lists are like that a pass is given and gives back. -/
  list : List Token → Prop
  /-- Which lists a nested pass may have run. -/
  group : List Token → Prop
  /-- What it can expect of the result of such a run. -/
  result : List Token → List Token → Prop
  fails : Failure → Prop

variable {c : Contract}

/-- A plan that keeps to a contract. -/
inductive Plan.Obeys (c : Contract) : Plan → Prop
  | done {tokens : List Token} : c.list tokens → Plan.Obeys c (.done tokens)
  | fail {e : Failure} : c.fails e → Plan.Obeys c (.fail e)
  | run {tokens : List Token} {next : List Token → Plan} : c.group tokens →
      (∀ result, c.result tokens result → Plan.Obeys c (next result)) →
      Plan.Obeys c (.run tokens next)

theorem Plan.Obeys.carryOut {plan : Plan} (h : plan.Obeys c) {inv : σ → Prop}
    {inner : List Token → Action σ (List Token)}
    (hinner : ∀ tokens, c.group tokens → (inner tokens).Keeps inv (c.result tokens) c.fails) :
    (plan.carryOut inner).Keeps inv c.list c.fails := by
  induction h with
  | done h => exact Action.keeps_pure h
  | fail h => exact Action.keeps_throw h
  | run h _ ih => exact (hinner _ h).bind ih

theorem Plan.Obeys.meets {plan : Plan} (h : plan.Obeys c)
    {inner : List Token → Except Failure (List Token)}
    (hinner : ∀ tokens, c.group tokens → Meets (c.result tokens) c.fails (inner tokens)) :
    Meets c.list c.fails (plan.carryOut inner) := by
  induction h with
  | done h => exact h
  | fail h => exact h
  | run h _ ih => exact (hinner _ h).bind ih

/-- A plan is carried out alike with two ways to run groups that agree on the groups it has run. -/
theorem Plan.Obeys.carryOut_congr {plan : Plan} (h : plan.Obeys c) {inv : σ → Prop}
    {inner inner' : List Token → Action σ (List Token)}
    (hinner : ∀ tokens, c.group tokens → (inner tokens).Keeps inv (c.result tokens) c.fails)
    (hinv : ∀ s, inv s) (hagree : ∀ tokens, c.group tokens → inner tokens = inner' tokens) :
    plan.carryOut inner = plan.carryOut inner' := by
  induction h with
  | done _ => rfl
  | fail _ => rfl
  | run hgroup _ ih =>
    show inner _ >>= _ = inner' _ >>= _
    rw [← hagree _ hgroup]
    exact (hinner _ hgroup).bind_congr hinv ih

/-- Carried out from a state, the plan has a list run. -/
inductive Plan.Runs (inner : List Token → Action σ (List Token)) : Plan → σ → List Token → Prop
  | here {group : List Token} {next : List Token → Plan} {s : σ} :
      Plan.Runs inner (.run group next) s group
  | later {group result other : List Token} {next : List Token → Plan} {s s' : σ} :
      (inner group).result s = (.ok result, s') → Plan.Runs inner (next result) s' other →
      Plan.Runs inner (.run group next) s other

/-- A plan that keeps to a contract has only such lists run as the contract allows. -/
theorem Plan.Obeys.group_of_runs {plan : Plan} (h : plan.Obeys c) {inv : σ → Prop}
    {inner : List Token → Action σ (List Token)}
    (hinner : ∀ tokens, c.group tokens → (inner tokens).Keeps inv (c.result tokens) c.fails)
    {s : σ} (hs : inv s) {group : List Token} (hr : plan.Runs inner s group) : c.group group := by
  induction hr with
  | here =>
    cases h with
    | run hgroup _ => exact hgroup
  | later hresult _ ih =>
    cases h with
    | run hgroup hnext =>
      obtain ⟨hinv, hmeets⟩ := hinner _ hgroup _ hs
      rw [hresult] at hinv hmeets
      exact ih (hnext _ hmeets) hinv

/-- The plan over groups keeps to a contract when each of its steps keeps `inv`, which is said of
the output and of the tokens that are left. -/
theorem obeys_groupPlan_of (inv : List Token → List Token → Prop)
    (done : ∀ {output}, inv output [] → c.list output.reverse)
    (push : ∀ {output t tokens}, t.isChar ')' = false → inv output (t :: tokens) →
      inv (t :: output) tokens)
    (unmatched : ∀ {output t tokens}, t.isChar ')' = true →
      (∀ u ∈ output, u.isChar '(' = false) → inv output (t :: tokens) →
      c.fails (.at .unmatchedClose t))
    (close : ∀ {group below paren t tokens}, t.isChar ')' = true → paren.isChar '(' = true →
      (∀ u ∈ group, u.isChar '(' = false) → inv (group ++ paren :: below) (t :: tokens) →
      c.group group.reverse ∧
        ∀ result, c.result group.reverse result → inv (result.reverse ++ below) tokens)
    {output tokens : List Token} (h : inv output tokens) : (groupPlan output tokens).Obeys c := by
  induction tokens generalizing output with
  | nil => exact .done (done h)
  | cons t tokens ih =>
    rw [groupPlan]
    split
    · rename_i ht
      split
      · rename_i hopen
        exact .fail (unmatched ht (openGroup?_eq_none_iff.mp hopen) h)
      · rename_i group below hopen
        obtain ⟨paren, hparen, rfl, hcontent⟩ := openGroup?_eq_some hopen
        obtain ⟨hgroup, hnext⟩ := close ht hparen hcontent h
        exact .run hgroup fun result hresult => ih (hnext result hresult)
    · rename_i ht
      exact ih (push (by simpa using ht) h)

def Pass.Obeys (c : Contract) (p : Pass) : Prop :=
  match p.body with
  | .edit f => ∀ tokens, c.list tokens → (f tokens).Keeps c.env c.list c.fails
  | .nested plan => ∀ tokens, c.list tokens → (plan tokens).Obeys c

theorem Plan.Obeys.weaken {plan : Plan} (h : plan.Obeys c) {fails : Failure → Prop}
    (hfails : ∀ f, c.fails f → fails f) : plan.Obeys { c with fails } := by
  induction h with
  | done h => exact .done h
  | fail h => exact .fail (hfails _ h)
  | run hgroup _ ih => exact .run hgroup ih

/-- A pass that keeps to a contract also keeps to one that lets it fail in more ways. -/
theorem Pass.Obeys.weaken {p : Pass} (h : p.Obeys c) {fails : Failure → Prop}
    (hfails : ∀ f, c.fails f → fails f) : p.Obeys { c with fails } := by
  obtain ⟨name, traceable, body⟩ := p
  cases body with
  | edit f =>
    intro tokens ht env henv
    exact ⟨(h tokens ht env henv).1, (h tokens ht env henv).2.weaken hfails⟩
  | nested plan => exact fun tokens ht => Plan.Obeys.weaken (h tokens ht) hfails

theorem Pass.obeys_ofFunction {name : String} {f : List Token → Except Failure (List Token)}
    (h : ∀ tokens, c.list tokens → Meets c.list c.fails (f tokens)) :
    (Pass.ofFunction name f).Obeys c :=
  fun tokens ht => Action.keeps_ofExcept (h tokens ht)

namespace Pipeline

variable {o : Observer σ} {inner : List Token → Run σ (List Token)}
  (hinner : ∀ tokens, c.group tokens →
    (inner tokens).Keeps (fun s => c.env s.env) (c.result tokens) c.fails)
include hinner

theorem keeps_apply {p : Pass} (hp : p.Obeys c) {tokens : List Token} (h : c.list tokens) :
    (apply inner p tokens).Keeps (fun s => c.env s.env) c.list c.fails := by
  obtain ⟨name, traceable, body⟩ := p
  cases body with
  | edit f => exact fun s hs => hp tokens h s.env hs
  | nested plan => exact Plan.Obeys.carryOut (hp tokens h) hinner

omit hinner in
/-- What a pass keeps, it keeps when it is reported. -/
theorem keeps_reported {inv : RunState σ → Prop} {post : List Token → Prop}
    {fails : Failure → Prop} {p : Pass} {tokens : List Token}
    (hreport : ∀ event, (Run.report o event).Keeps inv (fun _ => True) fails)
    (h : (apply inner p tokens).Keeps inv post fails) :
    (applyReported o inner p tokens).Keeps inv post fails := by
  rw [applyReported]
  split
  · refine (hreport _).bind fun _ _ => h.bind fun result hresult => ?_
    exact (hreport _).bind fun _ _ => Action.keeps_pure hresult
  · exact h

variable (ho : ∀ event noted, Meets (fun _ => True) c.fails ((o.notice event).result noted).1)
include ho

theorem keeps_applyReported {p : Pass} (hp : p.Obeys c) {tokens : List Token}
    (h : c.list tokens) :
    (applyReported o inner p tokens).Keeps (fun s => c.env s.env) c.list c.fails := by
  exact keeps_reported (fun event s hs => ⟨hs, ho event s.noted⟩) (keeps_apply hinner hp h)

/-- A run of passes keeps what each of them keeps. -/
theorem keeps_runPasses {passes : List Pass} (hp : ∀ p ∈ passes, p.Obeys c) {tokens : List Token}
    (h : c.list tokens) :
    (runPasses o inner passes tokens).Keeps (fun s => c.env s.env) c.list c.fails := by
  induction passes generalizing tokens with
  | nil => exact Action.keeps_pure h
  | cons p passes ih =>
    obtain ⟨hpass, hrest⟩ := List.forall_mem_cons.mp hp
    exact (keeps_applyReported hinner ho hpass h).bind fun result hresult => ih hrest hresult

/-! ### Runs of groups that agree -/

section Agreement

variable {inner' : List Token → Run σ (List Token)} (henv : ∀ env, c.env env)
  (hagree : ∀ tokens, c.group tokens → inner tokens = inner' tokens)
include henv hagree

omit ho in
theorem apply_congr {p : Pass} (hp : p.Obeys c) {tokens : List Token} (h : c.list tokens) :
    apply inner p tokens = apply inner' p tokens := by
  obtain ⟨name, traceable, body⟩ := p
  cases body with
  | edit f => rfl
  | nested plan => exact Plan.Obeys.carryOut_congr (hp tokens h) hinner (fun s => henv s.env) hagree

/-- Passes run alike with two ways to run groups that agree on the groups they have run. -/
theorem runPasses_congr {passes : List Pass} (hp : ∀ p ∈ passes, p.Obeys c) {tokens : List Token}
    (h : c.list tokens) : runPasses o inner passes tokens = runPasses o inner' passes tokens := by
  induction passes generalizing tokens with
  | nil => rfl
  | cons p passes ih =>
    obtain ⟨hpass, hrest⟩ := List.forall_mem_cons.mp hp
    have hfirst : applyReported o inner p tokens = applyReported o inner' p tokens := by
      rw [applyReported, applyReported, apply_congr hinner henv hagree hpass h]
    rw [runPasses_cons, runPasses_cons, ← hfirst]
    exact (keeps_applyReported hinner ho hpass h).bind_congr (fun s => henv s.env)
      fun result hresult => ih hrest hresult

end Agreement

end Pipeline

end Calculator
