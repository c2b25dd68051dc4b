import Calculator.Proofs.Rendering
import Calculator.Session

/-! Clocks.  What a tracer writes depends on the time only where its templates show it.  Instruments
that render alike, and read the same times unless none is shown, make tracers that do the same. -/

namespace Calculator

/-! ### Templates -/

namespace Template

/-- A renderer shows no time in a template. -/
def Timeless (renderer : Renderer) (template : Text.Points) : Prop :=
  ∀ (name : String) (tokens : List Token) (result : Option (List Token)) (depth : Nat)
    (time time' : String),
    renderer template (Tracer.fields name tokens result depth time) =
      renderer template (Tracer.fields name tokens result depth time')

mutual

/-- Whether a part looks a key up. -/
def Part.looksUp (key : List Char) : Part → Bool
  | .text _ => false
  | .variable k => k = key
  | .block k parts => k = key || anyLooksUp key parts
  | .inverse k parts => k = key || anyLooksUp key parts

def anyLooksUp (key : List Char) : List Part → Bool
  | [] => false
  | part :: parts => part.looksUp key || anyLooksUp key parts

end

/-- Fields that have the same value under each key but the time, and under the one for them all. -/
def SameButTime (fields fields' : Fields) : Prop :=
  ∀ (here : Value) (key : List Char), key ≠ ['.'] → key ≠ "time".toList →
    ∃ value, value ≠ .fields ∧ lookUp fields here key = value ∧ lookUp fields' here key = value

theorem sameButTime_fields (name : String) (tokens : List Token) (result : Option (List Token))
    (depth : Nat) (time time' : String) :
    SameButTime (Tracer.fields name tokens result depth time)
      (Tracer.fields name tokens result depth time') := by
  intro here key hfields htime
  have hother : "time".toList ≠ key := Ne.symm htime
  simp only [lookUp, if_neg hfields, Tracer.fields, List.find?_cons, List.find?_nil,
    decide_eq_false hother]
  refine ⟨_, ?_, rfl, rfl⟩
  split
  · exact nofun
  · split
    · exact nofun
    · split
      · exact nofun
      · split <;> exact nofun

theorem show_of_ne_fields {value : Value} (h : value ≠ .fields) (fields fields' : Fields) :
    value.show fields = value.show fields' := by
  cases value with
  | fields => exact absurd rfl h
  | _ => rfl

section Filling

variable {fields fields' : Fields}

mutual

theorem SameButTime.fill (h : SameButTime fields fields') (here : Value) : (part : Part) →
    part.looksUp ['.'] = false → part.looksUp "time".toList = false →
    part.fill fields here = part.fill fields' here
  | .text _, _, _ => rfl
  | .variable key, hfields, htime => by
    obtain ⟨value, hvalue, hleft, hright⟩ :=
      h here key (of_decide_eq_false hfields) (of_decide_eq_false htime)
    rw [Part.fill, Part.fill, hleft, hright]
    exact show_of_ne_fields hvalue fields fields'
  | .block key parts, hfields, htime => by
    obtain ⟨hkey, hfields⟩ := Bool.or_eq_false_iff.mp hfields
    obtain ⟨hkey', htime⟩ := Bool.or_eq_false_iff.mp htime
    obtain ⟨value, -, hleft, hright⟩ :=
      h here key (of_decide_eq_false hkey) (of_decide_eq_false hkey')
    simp only [Part.fill, hleft, hright, h.fillAll value parts hfields htime]
  | .inverse key parts, hfields, htime => by
    obtain ⟨hkey, hfields⟩ := Bool.or_eq_false_iff.mp hfields
    obtain ⟨hkey', htime⟩ := Bool.or_eq_false_iff.mp htime
    obtain ⟨value, -, hleft, hright⟩ :=
      h here key (of_decide_eq_false hkey) (of_decide_eq_false hkey')
    simp only [Part.fill, hleft, hright, h.fillAll here parts hfields htime]

theorem SameButTime.fillAll (h : SameButTime fields fields') (here : Value) :
    (parts : List Part) →
    anyLooksUp ['.'] parts = false → anyLooksUp "time".toList parts = false →
    Template.fillAll fields here parts = Template.fillAll fields' here parts
  | [], _, _ => rfl
  | part :: parts, hfields, htime => by
    obtain ⟨hpart, hparts⟩ := Bool.or_eq_false_iff.mp hfields
    obtain ⟨hpart', hparts'⟩ := Bool.or_eq_false_iff.mp htime
    rw [Template.fillAll, Template.fillAll, h.fill here part hpart hpart',
      h.fillAll here parts hparts hparts']

end

end Filling

/-- A template that names neither the time nor all fields at once shows no time. -/
theorem timeless_render {template : Text.Points} {parts : List Part}
    (hread : read (Text.spelledOut template).toList = .ok parts)
    (hfields : anyLooksUp ['.'] parts = false) (htime : anyLooksUp "time".toList parts = false) :
    Timeless render template := by
  intro name tokens result depth time time'
  have hfilled := (sameButTime_fields name tokens result depth time time').fillAll .fields parts
    hfields htime
  rw [render, render, hread]
  exact congrArg (fun text => Except.ok (String.ofList text)) hfilled

theorem timeless_callTemplate : Timeless render ({} : Tracer).callTemplate :=
  timeless_render read_callTemplate (by decide) (by decide)

theorem timeless_resultTemplate : Timeless render ({} : Tracer).resultTemplate :=
  timeless_render read_resultTemplate (by decide) (by decide)

end Template

/-! ### Tracers -/

namespace Tracer

variable {t t' : Tracer} {template : Text.Points}

theorem line_timeless (h : Template.Timeless t.instruments.renderer template) (name : String)
    (tokens : List Token) (result : Option (List Token)) (depth : Nat) (time time' : String) :
    t.line template name tokens result depth time =
      t.line template name tokens result depth time' := by
  rw [line_eq, line_eq, h name tokens result depth time time']

theorem write_congr {name : String} {tokens : List Token} {result : Option (List Token)}
    (h : ∀ depth reading,
      t.line template name tokens result depth (t.instruments.clock reading) =
        t'.line template name tokens result depth (t'.instruments.clock reading)) :
    t.write template name tokens result = t'.write template name tokens result := by
  refine Action.ext fun log => ?_
  rw [result_write, result_write, h]

end Tracer

/-- The lines that settings ask for show no time. -/
structure Settings.Timeless (s : Settings) (renderer : Template.Renderer) : Prop where
  calls : s.traceCalls = true → Template.Timeless renderer s.callTemplate
  results : s.traceResults = true → Template.Timeless renderer s.resultTemplate

/-- The templates that are there by default show no time. -/
theorem Settings.timeless_of_default {s : Settings}
    (hcalls : s.callTemplate = ({} : Tracer).callTemplate)
    (hresults : s.resultTemplate = ({} : Tracer).resultTemplate) :
    s.Timeless Template.render where
  calls _ := hcalls ▸ Template.timeless_callTemplate
  results _ := hresults ▸ Template.timeless_resultTemplate

/-- Instruments that make no difference to the lines that settings ask for: they render alike, and
they read the same times unless none is shown. -/
structure Instruments.Alike (s : Settings) (i i' : Instruments) : Prop where
  renderer : s.tracing = true → i.renderer = i'.renderer
  clock : i.clock = i'.clock ∨ s.Timeless i.renderer

namespace Instruments.Alike

variable {s : Settings} {i i' : Instruments}

theorem advance (h : i.Alike s i') (readings : Nat) :
    (i.advance readings).Alike s (i'.advance readings) := by
  refine ⟨h.renderer, h.clock.imp_left fun hclock => ?_⟩
  rw [Instruments.advance, Instruments.advance, hclock]

/-- Lines for which settings ask come out the same. -/
theorem line_eq (h : i.Alike s i') (hs : s.tracing = true) {template : Text.Points}
    (htemplate : s.Timeless i.renderer → Template.Timeless i.renderer template) {t t' : Tracer}
    (ht : t.instruments = i) (ht' : t' = { t with instruments := i' }) (name : String)
    (tokens : List Token) (result : Option (List Token)) (depth reading : Nat) :
    t.line template name tokens result depth (i.clock reading) =
      t'.line template name tokens result depth (i'.clock reading) := by
  have hrenderer : t.instruments.renderer = i'.renderer := by rw [ht, h.renderer hs]
  have hline : ∀ time, t'.line template name tokens result depth time =
      t.line template name tokens result depth time := by
    intro time
    rw [ht', Tracer.line_eq, Tracer.line_eq, hrenderer]
  rw [hline]
  rcases h.clock with hclock | htimeless
  · rw [hclock]
  · exact Tracer.line_timeless (ht ▸ htemplate htimeless) name tokens result depth _ _

/-- Tracers that settings ask for do the same with instruments that make no difference. -/
theorem observer_eq (h : i.Alike s i') {t t' : Tracer} (ht : s.tracer? i = some t)
    (ht' : s.tracer? i' = some t') : t.observer = t'.observer := by
  rw [Settings.tracer?] at ht ht'
  split at ht
  · rename_i hs
    rw [if_pos hs] at ht'
    obtain rfl := Option.some.inj ht
    obtain rfl := Option.some.inj ht'
    refine congrArg Observer.mk (funext fun event => ?_)
    cases event with
    | before name tokens =>
      simp only [Tracer.notice]
      by_cases hcalls : s.traceCalls = true
      · rw [if_pos hcalls, if_pos hcalls, Tracer.write_congr fun depth reading =>
          h.line_eq hs (fun htimeless => htimeless.calls hcalls) rfl rfl name tokens none depth
            reading]
      · rw [if_neg hcalls, if_neg hcalls]
    | after name tokens result =>
      simp only [Tracer.notice]
      by_cases hresults : s.traceResults = true
      · rw [if_pos hresults, if_pos hresults, Tracer.write_congr fun depth reading =>
          h.line_eq hs (fun htimeless => htimeless.results hresults) rfl rfl name tokens
            (some result) depth reading]
      · rw [if_neg hresults, if_neg hresults]
  · cases ht

end Instruments.Alike

/-- A line is handled the same with instruments that make no difference, and then they make none
again. -/
theorem Session.handle_instruments {s : Session} {i : Instruments}
    (h : s.instruments.Alike s.settings i) (source : String) (limit : Option Nat) :
    let handled := s.handle source limit
    ∃ i', ({ s with instruments := i } : Session).handle source limit =
        { handled with session := { handled.session with instruments := i' } } ∧
      handled.session.instruments.Alike s.settings i' := by
  intro handled
  simp only [handled, Session.handle]
  cases ht : s.settings.tracer? s.instruments with
  | none =>
    rw [Settings.tracer?_eq_none_iff.mpr (Settings.tracer?_eq_none_iff.mp ht)]
    exact ⟨i, rfl, h⟩
  | some t =>
    cases ht' : s.settings.tracer? i with
    | none =>
      rw [Settings.tracer?_eq_none_iff.mpr (Settings.tracer?_eq_none_iff.mp ht')] at ht
      cases ht
    | some t' =>
      dsimp only
      rw [← h.observer_eq ht ht']
      exact ⟨_, rfl, h.advance _⟩

end Calculator
