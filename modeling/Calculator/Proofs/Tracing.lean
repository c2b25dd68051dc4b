import Calculator.Proofs.Events
import Calculator.Proofs.Limits

/-! Tracing in sessions.  With the templates that are there by default, and a renderer that fills
them in as they read, a line can be written for every event whose tokens can be written.  So no run
is stopped by its tracer, whichever lines the settings ask for: a source comes to the same, and
leaves the same bound, with all of them, and the lines are those of the events of its run, in order.
-/

namespace Calculator

/-- Whether all tokens that an event reports can be written. -/
def Event.isWritable : Event → Bool
  | .before _ tokens => tokens.all Token.isWritable
  | .after _ tokens result => tokens.all Token.isWritable && result.all Token.isWritable

/-- What is written for an event. -/
def Event.text : Event → String
  | .before name tokens => "calling " ++ name ++ "(" ++ ({} : Printer).tokensText tokens ++ ")"
  | .after name tokens result =>
      name ++ "(" ++ ({} : Printer).tokensText tokens ++ ") = " ++ ({} : Printer).tokensText result

/-- The line for an event, indented by its level. -/
def Mark.line (m : Mark) : String := String.join (List.replicate m.level "  ") ++ m.event.text

/-! ### The default templates -/

namespace Tracer

/-- A tracer with the templates that are there by default. -/
structure IsPlain (t : Tracer) : Prop where
  callTemplate : t.callTemplate = ({} : Tracer).callTemplate
  resultTemplate : t.resultTemplate = ({} : Tracer).resultTemplate
  indent : t.indent = "  "

end Tracer

namespace Template

/-- A renderer fills the templates that are there by default in as they read. -/
structure FillsDefaults (renderer : Renderer) : Prop where
  call : ∀ (name : String) (tokens : List Token) (depth : Nat) (time : String),
    renderer ({} : Tracer).callTemplate (Tracer.fields name tokens none depth time) =
      .ok (Event.before name tokens).text
  result : ∀ (name : String) (tokens result : List Token) (depth : Nat) (time : String),
    renderer ({} : Tracer).resultTemplate (Tracer.fields name tokens (some result) depth time) =
      .ok (Event.after name tokens result).text

theorem fillsDefaults_render : FillsDefaults render where
  call := by
    intro name tokens depth time
    rw [render, read_callTemplate]
    refine congrArg Except.ok (String.toList_inj.mp ?_)
    simp [fillAll, Part.fill, lookUp, Tracer.fields, Value.show, Event.text]
  result := by
    intro name tokens result depth time
    rw [render, read_resultTemplate]
    refine congrArg Except.ok (String.toList_inj.mp ?_)
    simp [fillAll, Part.fill, lookUp, Tracer.fields, Value.show, Event.text]

end Template

namespace Tracer

variable {t : Tracer} (ht : t.IsPlain) (hr : Template.FillsDefaults t.instruments.renderer)
include ht hr

theorem lineOf_eq {m : Mark} (hm : m.event.isWritable = true) (reading : Nat) :
    t.lineOf reading m = .ok m.line := by
  obtain ⟨level, event⟩ := m
  cases event with
  | before name tokens =>
    have hwritable : tokens.all Token.isWritable = true := hm
    have hprintable : arePrintable tokens none = true := by simpa [arePrintable] using hwritable
    show t.line t.callTemplate name tokens none level _ = _
    rw [line_eq, if_pos hprintable, ht.callTemplate, hr.call, ht.indent]
    rfl
  | after name tokens result =>
    have hprintable : arePrintable tokens (some result) = true := hm
    show t.line t.resultTemplate name tokens (some result) level _ = _
    rw [line_eq, if_pos hprintable, ht.resultTemplate, hr.result, ht.indent]
    rfl

/-- No line is missing where the tokens of all events that are shown can be written. -/
theorem linesOf_eq {marks : List Mark} (reading : Nat)
    (hm : ∀ m ∈ marks, t.shows m = true → m.event.isWritable = true) :
    t.linesOf reading marks = .ok ((marks.filter t.shows).map Mark.line) := by
  induction marks generalizing reading with
  | nil => rfl
  | cons m marks ih =>
    obtain ⟨hmark, hmarks⟩ := List.forall_mem_cons.mp hm
    rw [linesOf]
    by_cases hshown : t.shows m = true
    · rw [if_pos hshown, lineOf_eq ht hr (hmark hshown), ih (reading + 1) hmarks,
        List.filter_cons_of_pos hshown]
      rfl
    · rw [if_neg hshown, ih reading hmarks, List.filter_cons_of_neg hshown]

end Tracer

/-! ### Settings -/

namespace Settings

/-- Whether settings ask for a line on an event. -/
def shows (s : Settings) : Event → Bool
  | .before _ _ => s.traceCalls
  | .after _ _ _ => s.traceResults

/-- The lines that settings ask for on a run, in order. -/
def linesOn (s : Settings) (c : Course .passes) : List String :=
  ((c.history.marks 0).filter fun m => s.shows m.event).map Mark.line

/-- Settings that leave the templates as they are by default. -/
structure IsPlain (s : Settings) : Prop where
  callTemplate : s.callTemplate = ({} : Tracer).callTemplate
  resultTemplate : s.resultTemplate = ({} : Tracer).resultTemplate

/-- The settings with other switches for tracing. -/
def switched (s : Settings) (calls results : Bool) : Settings :=
  { s with traceCalls := calls, traceResults := results }

variable {s : Settings}

theorem linesOn_untraced (h : s.tracing = false) (c : Course .passes) : s.linesOn c = [] := by
  obtain ⟨hcalls, hresults⟩ := Bool.or_eq_false_iff.mp h
  have hshows : ∀ event, s.shows event = false := by
    rintro (_ | _)
    · exact hcalls
    · exact hresults
  rw [linesOn, List.filter_eq_nil_iff.mpr fun m _ => by simp [hshows]]
  rfl

theorem tracer?_traced {i : Instruments} {t : Tracer} (h : s.tracer? i = some t)
    (hs : s.IsPlain) :
    t.IsPlain ∧ t.instruments = i ∧ t.shows = fun m => s.shows m.event := by
  rw [tracer?] at h
  split at h
  · obtain rfl := Option.some.inj h
    refine ⟨⟨hs.callTemplate, hs.resultTemplate, rfl⟩, rfl, ?_⟩
    funext m
    rw [Tracer.shows]
    cases m.event <;> rfl
  · cases h

end Settings

/-! ### Sessions -/

namespace Session

variable {s : Session} {source : String}

/-- How the run on a line goes. -/
def course (s : Session) (source : String) : Course .passes :=
  s.pipeline.course (tokenize source) s.env

theorem result_evaluate_course (s : Session) (source : String) :
    (evaluate source).result s =
      ((s.course source).outcome, { s with env := (s.course source).env }) := by
  have hevaluate : (evaluate source).result s =
      (((s.pipeline.runSilently (tokenize source)).result s.env).1,
        { s with env := ((s.pipeline.runSilently (tokenize source)).result s.env).2 }) := rfl
  rw [hevaluate, Pipeline.result_runSilently]
  rfl

/-- A line is handled as its run goes, and traced with the lines that the settings ask for. -/
theorem handle_course (hs : s.settings.IsPlain)
    (hr : Template.FillsDefaults s.instruments.renderer)
    (hw : ∀ event ∈ (s.course source).history.events, s.settings.shows event = true →
      event.isWritable = true) :
    ∃ depth instruments, s.handle source =
      ⟨{ s with env := (s.course source).env, instruments },
        ({} : TraceLog).extend depth (s.settings.linesOn (s.course source)),
        reportOf source (s.settings.linesOn (s.course source)) (s.course source).outcome⟩ := by
  let c := s.course source
  rw [handle]
  cases htracer : s.settings.tracer? s.instruments with
  | none =>
    have huntraced := Settings.tracer?_eq_none_iff.mp htracer
    refine ⟨0, s.instruments, ?_⟩
    rw [Settings.linesOn_untraced huntraced, TraceLog.extend_nil, Pipeline.result_runSilently]
    rfl
  | some t =>
    obtain ⟨hplain, hinstruments, hshows⟩ := Settings.tracer?_traced htracer hs
    have hwritable : ∀ m ∈ c.history.marks 0, t.shows m = true → m.event.isWritable = true := by
      intro m hm hshown
      refine hw m.event ?_ ?_
      · rw [← History.map_event_marks _ 0]
        exact List.mem_map_of_mem hm
      · rwa [hshows] at hshown
    have hlines : t.linesOf 0 (c.history.marks 0) = .ok (s.settings.linesOn c) := by
      rw [Tracer.linesOf_eq hplain (hinstruments ▸ hr) 0 hwritable, hshows]
      rfl
    have hfollows := t.follows_of_levelled (c.history.bracketed 0).levelled {} rfl
    rw [hlines, History.map_event_marks] at hfollows
    let log := ({} : TraceLog).extend (0 + c.history.begun.length) (s.settings.linesOn c)
    have hrun : (s.pipeline.run t.observer (tokenize source)).result ⟨s.env, {}⟩ =
        (c.outcome, ⟨c.env, log⟩) :=
      (Pipeline.tells_course t.observer s.pipeline (tokenize source) s.env).result_of_feed hfollows
    refine ⟨0 + c.history.begun.length, s.instruments.advance log.readings, ?_⟩
    simp only [hrun]
    rfl

/-! ### Reports -/

/-- The lines that were traced make no difference to the rest of a report. -/
theorem reportOf_traced (source : String) (traced traced' : List String)
    (run : Except Failure (List Token)) :
    reportOf source traced' run =
      (reportOf source traced run).map fun r => { r with traced := traced' } := by
  cases run with
  | error f => cases f <;> rfl
  | ok tokens =>
    rw [reportOf, reportOf]
    cases finalValue tokens with
    | ok n => rfl
    | error f => cases f <;> rfl

theorem source_of_reportOf {traced : List String} {run : Except Failure (List Token)} {r : Report}
    (h : reportOf source traced run = .ok r) : r.source = source ∧ r.traced = traced := by
  cases run with
  | error f =>
    cases f with
    | evaluation e =>
      obtain rfl := Except.ok.inj h
      exact ⟨rfl, rfl⟩
    | _ => cases h
  | ok tokens =>
    rw [reportOf] at h
    cases hvalue : finalValue tokens with
    | ok n =>
      rw [hvalue] at h
      obtain rfl := Except.ok.inj h
      exact ⟨rfl, rfl⟩
    | error f =>
      rw [hvalue] at h
      cases f with
      | evaluation e =>
        obtain rfl := Except.ok.inj h
        exact ⟨rfl, rfl⟩
      | _ => cases h

/-- A line is answered with a report on what it comes to.  Its messages are the lines that the
settings ask for, which are written one after the other as well, and behind them the error if there
is one. -/
structure Answers (s : Session) (source : String) (r : Report) : Prop where
  report : (s.handle source).report = .ok r
  gives : r.Gives ((compute source).result s).1
  env : (s.handle source).session.env = ((compute source).result s).2.env
  messages : r.messages =
    ((s.settings.linesOn (s.course source)).map fun line => ⟨.trace, line⟩) ++
      match r.verdict with
      | .value _ => []
      | .error e => [⟨.error, e.format source⟩]
  output : (s.handle source).log.output =
    String.join ((s.settings.linesOn (s.course source)).map (· ++ "\n"))

/-- A line is answered unless something else than an evaluation error stops it. -/
theorem answers_of_course (source : String) (hs : s.settings.IsPlain)
    (hr : Template.FillsDefaults s.instruments.renderer)
    (hw : ∀ event ∈ (s.course source).history.events, s.settings.shows event = true →
      event.isWritable = true)
    (he : ∀ f, ((compute source).result s).1 = .error f → ∃ e, f = .evaluation e) :
    ∃ r, s.Answers source r ∧
      reportOf source (s.settings.linesOn (s.course source)) (s.course source).outcome = .ok r := by
  obtain ⟨depth, instruments, hhandle⟩ := handle_course hs hr hw
  have hcompute : (compute source).result s =
      ((s.course source).outcome >>= finalValue, { s with env := (s.course source).env }) := by
    rw [result_compute, result_evaluate_course]
  rcases reportOf_gives source (s.settings.linesOn (s.course source)) (s.course source).outcome with
    ⟨r, hreport, hgives⟩ | ⟨f, -, hf, hne⟩
  · obtain ⟨hsource, htraced⟩ := source_of_reportOf hreport
    refine ⟨r, ⟨?report, ?gives, ?env, ?messages, ?output⟩, hreport⟩
    case report => rw [hhandle, hreport]
    case gives => rwa [hcompute]
    case env => rw [hhandle, hcompute]
    case output =>
      rw [hhandle]
      exact String.empty_append
    case messages =>
      rw [Report.messages, Report.errorText?, htraced, hsource]
      cases r.verdict <;> rfl
  · obtain ⟨e, rfl⟩ := he f (by rw [hcompute, hf])
    exact absurd rfl (hne e)

/-- Switches for tracing make no difference to what a line comes to, to what is reported of it, and
to what it leaves bound.  With all of them the report agrees with the computation of the line, and
its messages are the lines of the run and the error. -/
theorem answers_switched (hs : s.settings.IsPlain)
    (hr : Template.FillsDefaults s.instruments.renderer) (calls results : Bool)
    (hw : ∀ event ∈ (s.course source).history.events,
      (s.settings.shows event || (s.settings.switched calls results).shows event) = true →
        event.isWritable = true)
    (he : ∀ f, ((compute source).result s).1 = .error f → ∃ e, f = .evaluation e) :
    let s' : Session := { s with settings := s.settings.switched calls results }
    ∃ r r', s.Answers source r ∧ s'.Answers source r' ∧
      r'.verdict = r.verdict ∧ r'.tokens = r.tokens ∧ r'.errorText? = r.errorText? ∧
      (s'.handle source).session.env = (s.handle source).session.env := by
  intro s'
  have hcompute : ((compute source).result s').1 = ((compute source).result s).1 ∧
      ((compute source).result s').2.env = ((compute source).result s).2.env := by
    rw [result_compute, result_compute, result_evaluate_course, result_evaluate_course]
    exact ⟨rfl, rfl⟩
  obtain ⟨r, hanswers, hreport⟩ := answers_of_course source hs hr
    (fun event hm hshown => hw event hm (by rw [hshown, Bool.true_or])) he
  obtain ⟨r', hanswers', hreport'⟩ := answers_of_course (s := s') source
    ⟨hs.callTemplate, hs.resultTemplate⟩ hr
    (fun event hm hshown => hw event hm (by rw [show Settings.shows _ _ = true from hshown,
      Bool.or_true])) (hcompute.1 ▸ he)
  have hsame : r' = { r with traced := s'.settings.linesOn (s'.course source) } := by
    have hmapped := reportOf_traced source (s.settings.linesOn (s.course source))
      (s'.settings.linesOn (s'.course source)) (s.course source).outcome
    rw [hreport] at hmapped
    exact Except.ok.inj (hreport'.symm.trans hmapped)
  refine ⟨r, r', hanswers, hanswers', by rw [hsame], by rw [hsame], ?_, ?_⟩
  · rw [hsame]
    rfl
  · rw [hanswers'.env, hanswers.env, hcompute.2]

/-- A run that is stopped inside a group, with its calls traced and with its results traced. -/
theorem answers_switched_inGroup :
    let s := start { traceCalls := true }
    let s' : Session := { s with settings := s.settings.switched false true }
    s.settings.IsPlain ∧ Template.FillsDefaults s.instruments.renderer ∧
      (∀ event ∈ (s.course "2*(1/0)").history.events,
        (s.settings.shows event || s'.settings.shows event) = true → event.isWritable = true) ∧
      (∀ f, ((compute "2*(1/0)").result s).1 = .error f → ∃ e, f = .evaluation e) ∧
      ∃ r r', s.Answers "2*(1/0)" r ∧ s'.Answers "2*(1/0)" r' ∧
        r'.verdict = r.verdict ∧ r'.tokens = r.tokens ∧ r'.errorText? = r.errorText? ∧
        (s'.handle "2*(1/0)").session.env = (s.handle "2*(1/0)").session.env := by
  intro s s'
  have hs : s.settings.IsPlain := ⟨rfl, rfl⟩
  have hw : ∀ event ∈ (s.course "2*(1/0)").history.events,
      (s.settings.shows event || s'.settings.shows event) = true → event.isWritable = true := by
    decide +kernel
  have hcompute : ((compute "2*(1/0)").result s).1 =
      .error (.evaluation ⟨.zeroDivisor, some (.char '/' (some 4))⟩) := by decide +kernel
  have he : ∀ f, ((compute "2*(1/0)").result s).1 = .error f → ∃ e, f = .evaluation e := by
    intro f hf
    rw [hcompute] at hf
    exact ⟨_, (Except.error.inj hf).symm⟩
  have hr : Template.FillsDefaults s.instruments.renderer := Template.fillsDefaults_render
  exact ⟨hs, hr, hw, he, answers_switched hs hr false true hw he⟩

end Session

end Calculator
