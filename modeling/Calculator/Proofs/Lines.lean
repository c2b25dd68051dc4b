import Calculator.Proofs.Inheritance
import Calculator.Proofs.Rendering

/-! Lines of a session.  What the pipeline of a session hands on is handed on from line to line: it
holds of everything that is bound after some lines, and the error of a line is due to what was bound
before it and to its own characters. -/

namespace Calculator

variable {good : Token → Prop} {fails : Failure → Prop}

/-! ### Values and traces -/

namespace Inherited

variable (H : Inherited good fails)
include H

theorem notReduced {tokens : List Token} (hne : tokens ≠ []) (h : Every good tokens) :
    Meets fails fails (notReduced tokens) := by
  rw [Calculator.notReduced]
  split
  · rename_i t ht
    exact H.blamed (h t (List.mem_of_find?_eq_some ht)) (List.find?_some ht)
  · obtain ⟨t, ht, hmem⟩ : ∃ t, offender? tokens = some t ∧ t ∈ tokens := by
      rw [offender?]
      split
      · rename_i t ht
        exact ⟨t, rfl, List.mem_of_find?_eq_some ht⟩
      · exact ⟨tokens.getLast hne, List.getLast?_eq_some_getLast hne, List.getLast_mem hne⟩
    rw [ht, Printer.tokens]
    split
    · exact H.blamed (h t hmem) trivial
    · exact H.unwritable

theorem finalValue {tokens : List Token} (h : Every good tokens) :
    Meets (fun _ => True) fails (finalValue tokens) := by
  have hreduced : tokens ≠ [] → Meets (fun _ => True) fails (do
      let e ← Calculator.notReduced tokens
      (throw e : Except Failure Number)) := fun hne => (H.notReduced hne h).bind fun _ he => he
  rw [Calculator.finalValue.eq_def]
  split
  · exact H.empty
  · trivial
  · rename_i t _
    split
    · rename_i name hname
      exact H.blamed (h t (by simp)) hname
    · exact hreduced (by simp)
  · rename_i hne _ _
    exact hreduced hne

end Inherited

namespace Tracer

theorem meets_line (ht : ∀ f, fails (.template f)) (hw : fails .unwritable) (t : Tracer)
    (template : Text.Points) (name : String) (tokens : List Token) (result : Option (List Token))
    (depth : Nat) (time : String) :
    Meets (fun _ => True) fails (t.line template name tokens result depth time) := by
  rw [line_eq]
  split
  · split
    · trivial
    · exact ht _
  · exact hw

/-- A tracer stops a run only where a line cannot be rendered. -/
theorem meets_notice (ht : ∀ f, fails (.template f)) (hw : fails .unwritable) (t : Tracer)
    (event : Event) (log : TraceLog) :
    Meets (fun _ => True) fails ((t.observer.notice event).result log).1 := by
  have hwrite : ∀ template name tokens result,
      (t.write template name tokens result).Keeps (fun _ => True) (fun _ => True) fails := by
    intro template name tokens result log _
    refine ⟨trivial, ?_⟩
    let time := t.instruments.clock log.readings
    have hline := meets_line ht hw t template name tokens result log.depth time
    rw [result_write]
    cases hl : t.line template name tokens result log.depth time with
    | error e =>
      rw [hl] at hline
      exact hline
    | ok line => trivial
  have hmodify : ∀ f : TraceLog → TraceLog,
      (modify f : Action TraceLog Unit).Keeps (fun _ => True) (fun _ => True) fails :=
    fun f log _ => ⟨trivial, trivial⟩
  have hnotice : (t.notice event).Keeps (fun _ => True) (fun _ => True) fails := by
    cases event with
    | before name tokens =>
      rw [notice]
      split
      · exact (hwrite _ _ _ _).bind fun _ _ => hmodify _
      · exact hmodify _
    | after name tokens result =>
      refine (hmodify _).bind fun _ _ => ?_
      split
      · exact hwrite _ _ _ _
      · exact Action.keeps_pure trivial
  exact (hnotice log trivial).2

end Tracer

/-! ### Sessions -/

/-- Both pipelines that settings can ask for hand on what is inherited. -/
theorem Settings.obeys_pipeline (H : Inherited good fails) (hk : good (.symbol setKeyword))
    (settings : Settings) : ∀ p ∈ settings.pipeline.passes, p.Obeys (inheritance good fails) := by
  rw [Settings.pipeline]
  split
  · exact H.withVariables hk
  · exact H.arithmetic

theorem Inherited.bindOn (H : Inherited good fails) (settings : Settings) {env : Environment}
    (h : env.Binds good) : (settings.bindOn env).Binds good := by
  have hfold : ∀ bindings : List (String × Int), ∀ env : Environment, env.Binds good →
      (bindings.foldl (fun env b => env.insert b.1 (.number (.int b.2))) env).Binds good := by
    intro bindings
    induction bindings with
    | nil => exact fun _ h => h
    | cons b bindings ih => exact fun env h => ih _ (h.insert b.1 (H.number _))
  exact hfold settings.bindings env h

/-- The token that the error of a report points at. -/
def Report.token? (r : Report) : Option Token :=
  match r.verdict with
  | .value _ => none
  | .error e => e.token

/-- The error of a report, if there is one, is as `fails` says. -/
def Report.Explains (fails : Failure → Prop) (r : Report) : Prop :=
  ∀ e, r.verdict = .error e → fails (.evaluation e)

namespace Session

theorem meets_reportOf (H : Inherited good fails) (source : String) (traced : List String)
    {run : Except Failure (List Token)} (h : Meets (Every good) fails run) :
    Meets (Report.Explains fails) fails (reportOf source traced run) := by
  cases run with
  | error f =>
    cases f with
    | evaluation e => exact fun e' he => Verdict.error.inj he ▸ h
    | _ => exact h
  | ok tokens =>
    have hvalue := H.finalValue h
    rw [reportOf]
    split
    · exact nofun
    · rename_i e he
      rw [he] at hvalue
      exact fun e' he' => Verdict.error.inj he' ▸ hvalue
    · rename_i f _ hf
      rw [hf] at hvalue
      exact hvalue

/-- A line hands on what its pipeline does, also when it is traced. -/
theorem keeps_handle (H : Inherited good fails) (hdeep : fails .nestedTooDeep) {s : Session}
    (hp : ∀ p ∈ s.pipeline.passes, p.Obeys (inheritance good fails))
    (ht : s.settings.tracing = true → ∀ f, fails (.template f)) (henv : s.env.Binds good)
    {source : String} (hsource : Every good (tokenize source)) (limit : Option Nat) :
    (s.handle source limit).session.env.Binds good ∧
      Meets (Report.Explains fails) fails (s.handle source limit).report := by
  cases htracer : s.settings.tracer? s.instruments with
  | none =>
    have hrun := Pipeline.keeps_runWithin (o := .silent) hp (fun _ _ => trivial) hdeep
      (Pipeline.depthFor (tokenize source) limit) hsource ⟨s.env, ()⟩ henv
    rw [handle, htracer]
    exact ⟨hrun.1, meets_reportOf H source [] hrun.2⟩
  | some tracer =>
    have htracing : s.settings.tracing = true := by
      by_contra huntraced
      rw [Settings.tracer?_eq_none_iff.mpr (by simpa using huntraced)] at htracer
      cases htracer
    have hrun := Pipeline.keeps_runWithin (o := tracer.observer) hp
      (tracer.meets_notice (ht htracing) H.unwritable) hdeep
      (Pipeline.depthFor (tokenize source) limit) hsource ⟨s.env, {}⟩ henv
    rw [handle, htracer]
    exact ⟨hrun.1, meets_reportOf H source _ hrun.2⟩

/-- The session after some lines, each of which is handled whatever has become of those before, and
within a limit of its own. -/
def afterWithin (s : Session) (lines : List (String × Option Nat)) : Session :=
  lines.foldl (fun s line => (s.handle line.1 line.2).session) s

/-- The session after some lines that nothing limits. -/
def after (s : Session) (lines : List String) : Session :=
  lines.foldl (fun s line => (s.handle line).session) s

theorem after_eq (s : Session) (lines : List String) :
    s.after lines = s.afterWithin (lines.map fun line => (line, none)) := by
  rw [after, afterWithin, List.foldl_map]

@[simp] theorem settings_afterWithin (s : Session) (lines : List (String × Option Nat)) :
    (s.afterWithin lines).settings = s.settings := by
  induction lines generalizing s with
  | nil => rfl
  | cons line lines ih => exact (ih _).trans (settings_handle s line.1 line.2)

@[simp] theorem pipeline_afterWithin (s : Session) (lines : List (String × Option Nat)) :
    (s.afterWithin lines).pipeline = s.pipeline := by
  induction lines generalizing s with
  | nil => rfl
  | cons line lines ih => exact (ih _).trans (pipeline_handle s line.1 line.2)

@[simp] theorem pipeline_after (s : Session) (lines : List String) :
    (s.after lines).pipeline = s.pipeline := by
  rw [after_eq, pipeline_afterWithin]

/-- What is said of the characters of some lines holds of what is bound after them. -/
theorem binds_afterWithin (H : Inherited good fails) (hdeep : fails .nestedTooDeep) {s : Session}
    (hp : ∀ p ∈ s.pipeline.passes, p.Obeys (inheritance good fails))
    (ht : s.settings.tracing = true → ∀ f, fails (.template f)) (henv : s.env.Binds good)
    {lines : List (String × Option Nat)} (hlines : ∀ line ∈ lines, Every good (tokenize line.1)) :
    (s.afterWithin lines).env.Binds good := by
  induction lines generalizing s with
  | nil => exact henv
  | cons line lines ih =>
    obtain ⟨hline, hrest⟩ := List.forall_mem_cons.mp hlines
    obtain ⟨hhandled, -⟩ := keeps_handle H hdeep hp ht henv hline line.2
    refine ih ?_ ?_ hhandled hrest
    · rwa [pipeline_handle]
    · rwa [settings_handle]

end Session

end Calculator
