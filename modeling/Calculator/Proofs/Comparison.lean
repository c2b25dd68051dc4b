import Calculator.Pipeline

/-! Two runs side by side.  From related states two actions that are alike both succeed or both
fail, with results or failures that are related, and they leave related states.  Pipelines run alike
when their passes do and their observers take notice alike. -/

namespace Calculator

variable {σ τ α β α' β' : Type}

/-- Two outcomes are results that `post` relates or failures that `fails` relates. -/
inductive Agree (post : α → β → Prop) (fails : Failure → Failure → Prop) :
    Except Failure α → Except Failure β → Prop
  | ok {a : α} {b : β} : post a b → Agree post fails (.ok a) (.ok b)
  | error {e f : Failure} : fails e f → Agree post fails (.error e) (.error f)

namespace Agree

variable {post : α → β → Prop} {post' : α' → β' → Prop} {fails : Failure → Failure → Prop}

theorem bind {x : Except Failure α} {y : Except Failure β} {f : α → Except Failure α'}
    {g : β → Except Failure β'} (h : Agree post fails x y)
    (hf : ∀ a b, post a b → Agree post' fails (f a) (g b)) :
    Agree post' fails (x >>= f) (y >>= g) := by
  cases h with
  | ok h => exact hf _ _ h
  | error h => exact .error h

theorem refl {x : Except Failure α} {post : α → α → Prop} (hpost : ∀ a, post a a)
    (hfails : ∀ f, fails f f) : Agree post fails x x := by
  cases x with
  | ok a => exact .ok (hpost a)
  | error e => exact .error (hfails e)

theorem imp {x : Except Failure α} {y : Except Failure β} {post' : α → β → Prop}
    (h : Agree post fails x y) (hpost : ∀ a b, post a b → post' a b) : Agree post' fails x y := by
  cases h with
  | ok h => exact .ok (hpost _ _ h)
  | error h => exact .error h

end Agree

/-- How the states of two runs are related.  Runs are compared only where the states that they end
in are as `admits` and `admits'` say. -/
structure Comparison (σ τ : Type) where
  rel : σ → τ → Prop
  admits : σ → Prop
  admits' : τ → Prop

/-- All runs are compared. -/
def Comparison.ofRel (rel : σ → τ → Prop) : Comparison σ τ := ⟨rel, fun _ => True, fun _ => True⟩

namespace Action

variable {c : Comparison σ τ} {post : α → β → Prop} {post' : α' → β' → Prop}
  {fails : Failure → Failure → Prop} {admits : σ → Prop}

def Alike (x : Action σ α) (c : Comparison σ τ) (post : α → β → Prop)
    (fails : Failure → Failure → Prop) (y : Action τ β) : Prop :=
  ∀ s t, c.rel s t → c.admits (x.result s).2 → c.admits' (y.result t).2 →
    c.rel (x.result s).2 (y.result t).2 ∧ Agree post fails (x.result s).1 (y.result t).1

/-- An action that ends in states as `admits` says from such states only. -/
def Reflects (x : Action σ α) (admits : σ → Prop) : Prop := ∀ s, admits (x.result s).2 → admits s

theorem Reflects.bind {x : Action σ α} {f : α → Action σ α'} (h : x.Reflects admits)
    (hf : ∀ a, (f a).Reflects admits) : (x >>= f).Reflects admits := by
  intro s hs
  rw [result_bind] at hs
  cases hx : x.result s with
  | mk r s' =>
    rw [hx] at hs
    have hfirst : admits (x.result s).2 := by
      rw [hx]
      cases r with
      | error e => exact hs
      | ok a => exact hf a s' hs
    exact h s hfirst

theorem reflects_pure (a : α) : (pure a : Action σ α).Reflects admits := fun _ h => h

theorem reflects_throw (e : Failure) : (throw e : Action σ α).Reflects admits := fun _ h => h

theorem reflects_any (x : Action σ α) : x.Reflects fun _ => True := fun _ _ => trivial

theorem alike_pure {a : α} {b : β} (h : post a b) :
    (pure a : Action σ α).Alike c post fails (pure b) := fun _ _ hs _ _ => ⟨hs, .ok h⟩

theorem alike_throw {e f : Failure} (h : fails e f) :
    (throw e : Action σ α).Alike c post fails (throw f) := fun _ _ hs _ _ => ⟨hs, .error h⟩

theorem alike_ofExcept {x : Except Failure α} {y : Except Failure β} (h : Agree post fails x y) :
    (ofExcept x : Action σ α).Alike c post fails (ofExcept y) := fun _ _ hs _ _ => ⟨hs, h⟩

/-- What comes after must not reach the states that are compared from others: only then do the first
steps end in such states too. -/
theorem Alike.bind {x : Action σ α} {y : Action τ β} {f : α → Action σ α'} {g : β → Action τ β'}
    (h : x.Alike c post fails y) (hf : ∀ a b, post a b → (f a).Alike c post' fails (g b))
    (hrest : ∀ a, (f a).Reflects c.admits) (hrest' : ∀ b, (g b).Reflects c.admits') :
    (x >>= f).Alike c post' fails (y >>= g) := by
  intro s t hst hs ht
  rw [result_bind] at hs ⊢
  rw [result_bind] at ht ⊢
  have hfirst := h s t hst
  rcases hx : x.result s with ⟨r, s'⟩
  rcases hy : y.result t with ⟨q, t'⟩
  rw [hx, hy] at hfirst
  rw [hx] at hs
  rw [hy] at ht
  -- The last states are admitted, so the ones between the two steps are.
  have hadmits : c.admits s' := by
    cases r with
    | error e => exact hs
    | ok a => exact hrest a s' hs
  have hadmits' : c.admits' t' := by
    cases q with
    | error e => exact ht
    | ok b => exact hrest' b t' ht
  obtain ⟨hrel, hagree⟩ := hfirst hadmits hadmits'
  cases hagree with
  | ok hpost => exact hf _ _ hpost s' t' hrel hs ht
  | error hfails => exact ⟨hrel, .error hfails⟩

end Action

/-! ### Plans -/

section Plans

variable {group result post : List Token → List Token → Prop} {fails : Failure → Failure → Prop}

/-- Plans that have related lists run and go on alike from related results. -/
inductive Plan.Alike (group result post : List Token → List Token → Prop)
    (fails : Failure → Failure → Prop) : Plan → Plan → Prop
  | done {tokens tokens' : List Token} : post tokens tokens' →
      Plan.Alike group result post fails (.done tokens) (.done tokens')
  | fail {e f : Failure} : fails e f → Plan.Alike group result post fails (.fail e) (.fail f)
  | run {tokens tokens' : List Token} {next next' : List Token → Plan} : group tokens tokens' →
      (∀ r r', result r r' → Plan.Alike group result post fails (next r) (next' r')) →
      Plan.Alike group result post fails (.run tokens next) (.run tokens' next')

variable {inner : List Token → Action σ (List Token)} {inner' : List Token → Action τ (List Token)}

theorem Plan.reflects_carryOut {admits : σ → Prop} (h : ∀ tokens, (inner tokens).Reflects admits)
    (plan : Plan) : (plan.carryOut inner).Reflects admits := by
  induction plan with
  | done tokens => exact Action.reflects_pure tokens
  | fail e => exact Action.reflects_throw e
  | run tokens next ih => exact (h tokens).bind ih

theorem Plan.alike_refl (hfails : ∀ f, fails f f) (plan : Plan) :
    Plan.Alike Eq Eq Eq fails plan plan := by
  induction plan with
  | done tokens => exact .done rfl
  | fail e => exact .fail (hfails e)
  | run tokens next ih => exact .run rfl fun r _ hr => hr ▸ ih r

theorem Plan.Alike.carryOut {c : Comparison σ τ} {plan plan' : Plan}
    (h : Plan.Alike group result post fails plan plan')
    (hinner : ∀ tokens tokens', group tokens tokens' →
      (inner tokens).Alike c result fails (inner' tokens'))
    (hr : ∀ tokens, (inner tokens).Reflects c.admits)
    (hr' : ∀ tokens, (inner' tokens).Reflects c.admits') :
    (plan.carryOut inner).Alike c post fails (plan'.carryOut inner') := by
  induction h with
  | done h => exact Action.alike_pure h
  | fail h => exact Action.alike_throw h
  | run hgroup _ ih =>
    exact (hinner _ _ hgroup).bind ih (fun r => Plan.reflects_carryOut hr _)
      fun r => Plan.reflects_carryOut hr' _

end Plans

/-! ### Runs -/

/-- Runs are compared by what is done to the environment and by what is noted. -/
def Comparison.onRun (env : Environment → Environment → Prop) (c : Comparison σ τ) :
    Comparison (RunState σ) (RunState τ) where
  rel := fun s t => env s.env t.env ∧ c.rel s.noted t.noted
  admits := fun s => c.admits s.noted
  admits' := fun t => c.admits' t.noted

/-- Observers that end in states as `admits` says from such states only. -/
def Observer.Reflects (o : Observer σ) (admits : σ → Prop) : Prop :=
  ∀ event, (o.notice event).Reflects admits

namespace Pipeline

section Reflecting

variable {o : Observer σ} {admits : σ → Prop}

theorem reflects_apply {inner : List Token → Run σ (List Token)}
    (h : ∀ tokens, (inner tokens).Reflects fun s => admits s.noted) (p : Pass)
    (tokens : List Token) : (apply inner p tokens).Reflects fun s => admits s.noted := by
  obtain ⟨name, traceable, body⟩ := p
  cases body with
  | edit f => exact fun _ hs => hs
  | nested plan => exact Plan.reflects_carryOut h (plan tokens)

variable (ho : o.Reflects admits)
include ho

theorem reflects_applyReported {inner : List Token → Run σ (List Token)}
    (h : ∀ tokens, (inner tokens).Reflects fun s => admits s.noted) (p : Pass)
    (tokens : List Token) :
    (applyReported o inner p tokens).Reflects fun s => admits s.noted := by
  have hreport : ∀ event, (Run.report o event).Reflects fun s => admits s.noted :=
    fun event s => ho event s.noted
  rw [applyReported]
  split
  · exact (hreport _).bind fun _ => (reflects_apply h p tokens).bind fun result =>
      (hreport _).bind fun _ => Action.reflects_pure result
  · exact reflects_apply h p tokens

theorem reflects_runPasses {inner : List Token → Run σ (List Token)}
    (h : ∀ tokens, (inner tokens).Reflects fun s => admits s.noted) (passes : List Pass)
    (tokens : List Token) :
    (runPasses o inner passes tokens).Reflects fun s => admits s.noted := by
  induction passes generalizing tokens with
  | nil => exact Action.reflects_pure tokens
  | cons p passes ih => exact (reflects_applyReported ho h p tokens).bind ih

theorem reflects_runWithin (l : Pipeline) (depth : Nat) (tokens : List Token) :
    (runWithin o l depth tokens).Reflects fun s => admits s.noted := by
  induction depth generalizing tokens with
  | zero => exact Action.reflects_throw _
  | succ depth ih => exact reflects_runPasses ho ih l.passes tokens

end Reflecting

end Pipeline

section Runs

variable {c : Comparison σ τ} {env : Environment → Environment → Prop}
  {group result pre told post : List Token → List Token → Prop}
  {fails : Failure → Failure → Prop} {o : Observer σ} {o' : Observer τ}

/-- A pass that goes from lists that `pre` relates to lists that `post` relates. -/
def Pass.Alike (env : Environment → Environment → Prop)
    (group result : List Token → List Token → Prop) (fails : Failure → Failure → Prop)
    (pre post : List Token → List Token → Prop) (p : Pass) : Prop :=
  match p.body with
  | .edit f => ∀ tokens tokens', pre tokens tokens' →
      (f tokens).Alike (.ofRel env) post fails (f tokens')
  | .nested plan => ∀ tokens tokens', pre tokens tokens' →
      Plan.Alike group result post fails (plan tokens) (plan tokens')

theorem Pass.alike_ofFunction {name : String} {f : List Token → Except Failure (List Token)}
    (h : ∀ tokens tokens', pre tokens tokens' → Agree post fails (f tokens) (f tokens')) :
    (Pass.ofFunction name f).Alike env group result fails pre post :=
  fun tokens tokens' ht => Action.alike_ofExcept (h tokens tokens' ht)

/-- Two observers of a pass.  They go on alike, and where they do after the first report, `told`
holds of what the pass is given. -/
structure SeeAlike (c : Comparison σ τ) (fails : Failure → Failure → Prop) (o : Observer σ)
    (o' : Observer τ) (name : String) (pre told post : List Token → List Token → Prop) : Prop where
  before {tokens tokens' : List Token} : pre tokens tokens' →
    (o.notice (.before name tokens)).Alike c (fun _ _ => told tokens tokens') fails
      (o'.notice (.before name tokens'))
  after {tokens tokens' r r' : List Token} : told tokens tokens' → post r r' →
    (o.notice (.after name tokens r)).Alike c (fun _ _ => True) fails
      (o'.notice (.after name tokens' r'))

/-- Passes that lead from lists that one relation relates to lists that another one relates. -/
inductive Lead (c : Comparison σ τ) (env : Environment → Environment → Prop)
    (group result : List Token → List Token → Prop) (fails : Failure → Failure → Prop)
    (o : Observer σ) (o' : Observer τ) : (List Token → List Token → Prop) → List Pass →
      (List Token → List Token → Prop) → Prop
  | nil {post : List Token → List Token → Prop} : Lead c env group result fails o o' post [] post
  | cons {pre told mid post : List Token → List Token → Prop} {p : Pass} {passes : List Pass} :
      p.traceable = true → SeeAlike c fails o o' p.name pre told mid →
      p.Alike env group result fails told mid → Lead c env group result fails o o' mid passes post →
      Lead c env group result fails o o' pre (p :: passes) post

theorem Lead.append {first second : List Pass} {mid : List Token → List Token → Prop}
    (h : Lead c env group result fails o o' pre first mid)
    (h' : Lead c env group result fails o o' mid second post) :
    Lead c env group result fails o o' pre (first ++ second) post := by
  induction h with
  | nil => exact h'
  | cons ht hsee hp _ ih => exact .cons ht hsee hp (ih h')

/-- Passes that each keep lists related. -/
theorem lead_of_forall {rel : List Token → List Token → Prop} {passes : List Pass}
    (h : ∀ p ∈ passes, p.traceable = true ∧ SeeAlike c fails o o' p.name rel rel rel ∧
      p.Alike env group result fails rel rel) :
    Lead c env group result fails o o' rel passes rel := by
  induction passes with
  | nil => exact .nil
  | cons p passes ih =>
    obtain ⟨⟨ht, hsee, hp⟩, hrest⟩ := List.forall_mem_cons.mp h
    exact .cons ht hsee hp (ih hrest)

theorem Action.Alike.edit {x y : Edit (List Token)} (h : x.Alike (.ofRel env) post fails y) :
    (Run.edit x : Run σ (List Token)).Alike (c.onRun env) post fails (Run.edit y) := by
  intro s t hst _ _
  obtain ⟨henv, hagree⟩ := h s.env t.env hst.1 trivial trivial
  exact ⟨⟨henv, hst.2⟩, hagree⟩

theorem Action.Alike.report {event event' : Event} {holds : Prop}
    (h : (o.notice event).Alike c (fun _ _ => holds) fails (o'.notice event')) :
    (Run.report o event).Alike (c.onRun env) (fun _ _ => holds) fails (Run.report o' event') := by
  intro s t hst hs ht
  obtain ⟨hnoted, hagree⟩ := h s.noted t.noted hst.2 hs ht
  exact ⟨⟨hst.1, hnoted⟩, hagree⟩

namespace Pipeline

variable {inner : List Token → Run σ (List Token)} {inner' : List Token → Run τ (List Token)}
  (hinner : ∀ tokens tokens', group tokens tokens' →
    (inner tokens).Alike (c.onRun env) result fails (inner' tokens'))
  (hr : ∀ tokens, (inner tokens).Reflects fun s => c.admits s.noted)
  (hr' : ∀ tokens, (inner' tokens).Reflects fun t => c.admits' t.noted)
include hinner hr hr'

theorem alike_apply {p : Pass} (hp : p.Alike env group result fails pre post)
    {tokens tokens' : List Token} (h : pre tokens tokens') :
    (apply inner p tokens).Alike (c.onRun env) post fails (apply inner' p tokens') := by
  obtain ⟨name, traceable, body⟩ := p
  cases body with
  | edit f => exact Action.Alike.edit (hp tokens tokens' h)
  | nested plan => exact Plan.Alike.carryOut (hp tokens tokens' h) hinner hr hr'

variable (ho : o.Reflects c.admits) (ho' : o'.Reflects c.admits')
include ho ho'

theorem alike_applyReported {p : Pass} (ht : p.traceable = true)
    (hsee : SeeAlike c fails o o' p.name pre told post)
    (hp : p.Alike env group result fails told post) {tokens tokens' : List Token}
    (h : pre tokens tokens') :
    (applyReported o inner p tokens).Alike (c.onRun env) post fails
      (applyReported o' inner' p tokens') := by
  have hreport : ∀ event, (Run.report o event).Reflects fun s => c.admits s.noted :=
    fun event s => ho event s.noted
  have hreport' : ∀ event, (Run.report o' event).Reflects fun t => c.admits' t.noted :=
    fun event t => ho' event t.noted
  have happly : ∀ tokens, (apply inner p tokens).Reflects fun s => c.admits s.noted :=
    reflects_apply hr p
  have happly' : ∀ tokens, (apply inner' p tokens).Reflects fun t => c.admits' t.noted :=
    reflects_apply hr' p
  rw [applyReported_of_traceable ht, applyReported_of_traceable ht]
  refine (hsee.before h).report.bind (fun _ _ htold => ?_)
    (fun _ => (happly _).bind fun r => (hreport _).bind fun _ => Action.reflects_pure r)
    fun _ => (happly' _).bind fun r => (hreport' _).bind fun _ => Action.reflects_pure r
  refine (alike_apply hinner hr hr' hp htold).bind (fun r r' hpost => ?_)
    (fun r => (hreport _).bind fun _ => Action.reflects_pure r)
    fun r => (hreport' _).bind fun _ => Action.reflects_pure r
  exact (hsee.after htold hpost).report.bind (fun _ _ _ => Action.alike_pure hpost)
    (fun _ => Action.reflects_pure r) fun _ => Action.reflects_pure r'

theorem alike_runPasses {passes : List Pass}
    (hp : Lead c env group result fails o o' pre passes post) {tokens tokens' : List Token}
    (h : pre tokens tokens') :
    (runPasses o inner passes tokens).Alike (c.onRun env) post fails
      (runPasses o' inner' passes tokens') := by
  induction hp generalizing tokens tokens' with
  | nil => exact Action.alike_pure h
  | cons ht hsee hp _ ih =>
    rw [runPasses_cons, runPasses_cons]
    exact (alike_applyReported hinner hr hr' ho ho' ht hsee hp h).bind (fun _ _ hmid => ih hmid)
      (reflects_runPasses ho hr _) (reflects_runPasses ho' hr' _)

omit hinner hr hr' in
/-- Runs are alike when their passes are, with runs of groups that are alike in turn. -/
theorem alike_runWithin {l : Pipeline} (hp : Lead c env group result fails o o' pre l.passes result)
    (hgroup : ∀ tokens tokens', group tokens tokens' → pre tokens tokens')
    (hdeep : fails .nestedTooDeep .nestedTooDeep) (depth : Nat) {tokens tokens' : List Token}
    (h : pre tokens tokens') :
    (runWithin o l depth tokens).Alike (c.onRun env) result fails
      (runWithin o' l depth tokens') := by
  induction depth generalizing tokens tokens' with
  | zero => exact Action.alike_throw hdeep
  | succ depth ih =>
    have hinner : ∀ tokens tokens', group tokens tokens' →
        (runWithin o l depth tokens).Alike (c.onRun env) result fails
          (runWithin o' l depth tokens') := fun _ _ hg => ih (hgroup _ _ hg)
    exact alike_runPasses hinner (reflects_runWithin ho l depth) (reflects_runWithin ho' l depth)
      ho ho' hp h

end Pipeline

end Runs

end Calculator
