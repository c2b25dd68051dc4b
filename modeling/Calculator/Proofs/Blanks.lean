import Calculator.Proofs.Bindings
import Calculator.Proofs.Clocks
import Calculator.Proofs.Lines
import Calculator.Proofs.Resemblance

/-! Blanks and offsets have no influence.  Two sessions that read the same lines, blanks apart, bind
the same tokens, offsets apart, and report the same on every line: not even what a tracer writes on
the way tells them apart. -/

namespace Calculator

/-- The same token, at whatever offset. -/
def SameButOffset (t u : Token) : Prop := t.withoutOffset = u.withoutOffset

/-- The same text, blanks apart. -/
def SameButBlanks (source source' : String) : Prop := solidChars source = solidChars source'

/-- The same line, blanks apart, within the same limit. -/
def LineAlike (line line' : String × Option Nat) : Prop :=
  SameButBlanks line.1 line'.1 ∧ line.2 = line'.2

/-- The same failure, pointing at the same token at whatever offset. -/
def Failure.Same (f g : Failure) : Prop := f.withoutOffset = g.withoutOffset

theorem forall₂_sameButOffset {tokens tokens' : List Token} :
    List.Forall₂ SameButOffset tokens tokens' ↔ withoutOffsets tokens = withoutOffsets tokens' := by
  rw [withoutOffsets, withoutOffsets, ← List.forall₂_eq_eq_eq, List.forall₂_map_left_iff,
    List.forall₂_map_right_iff]
  rfl

theorem sameButOffset_tokenize {source source' : String} (h : SameButBlanks source source') :
    List.Forall₂ SameButOffset (tokenize source) (tokenize source') := by
  rw [forall₂_sameButOffset, withoutOffsets_tokenize, withoutOffsets_tokenize, h]

/-- Outcomes that are the same with the offsets taken off. -/
theorem agree_of_withoutOffsets {α : Type} {f : α → α} {x y : Except Failure α}
    (h : Except.withoutOffsets f x = Except.withoutOffsets f y) :
    Agree (fun a b => f a = f b) Failure.Same x y := by
  cases x with
  | ok a =>
    cases y with
    | ok b => exact .ok (Except.ok.inj h)
    | error g => cases h
  | error f =>
    cases y with
    | ok b => cases h
    | error g => exact .error (Except.error.inj h)

/-! ### Runs -/

section Runs

variable {order : Prop}

/-- The same bindings, offsets apart; and in the same order if that is said of them. -/
def BoundAlike (order : Prop) (env env' : Environment) : Prop :=
  env.Bound SameButOffset env' ∧ (order → env.names = env'.names)

theorem boundAlike_insert {env env' : Environment} (h : BoundAlike order env env') (name : String)
    {t u : Token} (ht : SameButOffset t u) :
    BoundAlike order (env.insert name t) (env'.insert name u) := by
  refine ⟨h.1.insert name ht, fun horder => ?_⟩
  rw [Environment.names_insert, Environment.names_insert, h.2 horder]

theorem resemblance_sameButOffset : Resemblance SameButOffset (BoundAlike order) Failure.Same where
  keyword := rfl
  name {t u} h := by rw [← t.name?_withoutOffset, h, u.name?_withoutOffset]
  written {t u} h := by
    rw [Token.written, Token.written, ← t.isWritable_withoutOffset, ← t.text_withoutOffset, h,
      u.isWritable_withoutOffset, u.text_withoutOffset]
  place {t u p} hp h := by
    have htest := test_withoutOffset (keywordPattern ++ assignmentPattern) p.test
      (List.mem_map_of_mem hp)
    rw [← htest t, h, htest u]
  bound h := h.1
  insert name h ht := boundAlike_insert h name ht
  blamed cause h := by
    rw [Failure.Same, Failure.withoutOffset_at, Failure.withoutOffset_at, h]
  unwritable := rfl

/-- A function on tokens that does not look at offsets makes a pass that does not. -/
theorem alike_ofFunction_withoutOffsets {group result : List Token → List Token → Prop}
    {name : String} {f : List Token → Except Failure (List Token)}
    (h : ∀ tokens, f (withoutOffsets tokens) = tokensOnly (f tokens)) :
    (Pass.ofFunction name f).Alike (BoundAlike order) group result Failure.Same
      (List.Forall₂ SameButOffset) (List.Forall₂ SameButOffset) := by
  refine Pass.alike_ofFunction fun tokens tokens' ht => ?_
  have hsame : tokensOnly (f tokens) = tokensOnly (f tokens') := by
    rw [← h, ← h, forall₂_sameButOffset.mp ht]
  exact (agree_of_withoutOffsets hsame).imp fun _ _ => forall₂_sameButOffset.mpr

/-- What two runs share that differ in blanks and offsets only. -/
abbrev KeepsAlike (order : Prop) (p : Pass) : Prop :=
  p.Alike (BoundAlike order) (List.Forall₂ SameButOffset) (List.Forall₂ SameButOffset) Failure.Same
    (List.Forall₂ SameButOffset) (List.Forall₂ SameButOffset)

theorem keepsAlike_arithmetic : ∀ p ∈ Pass.arithmetic, KeepsAlike order p := by
  intro p hp
  simp only [Pass.arithmetic, List.mem_cons, List.not_mem_nil, or_false] at hp
  rcases hp with rfl | rfl | rfl | rfl | rfl | rfl
  · exact alike_ofFunction_withoutOffsets fun tokens => by rw [mergeDigits_withoutOffsets]; rfl
  · exact alike_ofFunction_withoutOffsets convertNumerals_withoutOffsets
  · exact resemblance_sameButOffset.brackets
  · exact alike_ofFunction_withoutOffsets fun tokens => by
      rw [applySigns, signsFrom_withoutOffsets]
      rfl
  · refine alike_ofFunction_withoutOffsets fun tokens => ?_
    rw [foldProducts_eq_fold, foldProducts_eq_fold]
    exact fold_withoutOffsets isScaling_withoutOffset pointsAtSign_multiply tokens
  · refine alike_ofFunction_withoutOffsets fun tokens => ?_
    rw [foldSums_eq_fold, foldSums_eq_fold]
    exact fold_withoutOffsets isAddition_withoutOffset pointsAtSign_addUp tokens

theorem keepsAlike_pipeline (settings : Settings) :
    ∀ p ∈ settings.pipeline.passes, KeepsAlike order p := by
  rw [Settings.pipeline]
  split
  · intro p hp
    rw [Pipeline.passes_withVariables] at hp
    simp only [List.cons_append, List.nil_append, List.mem_cons] at hp
    rcases hp with rfl | rfl | rfl | hp
    · exact resemblance_sameButOffset.setWord
    · exact resemblance_sameButOffset.setVariable
    · exact resemblance_sameButOffset.useVariable
    · exact keepsAlike_arithmetic p hp
  · exact keepsAlike_arithmetic

theorem traceable_pipeline (settings : Settings) :
    ∀ p ∈ settings.pipeline.passes, p.traceable = true := by
  rw [Settings.pipeline]
  split <;> decide

end Runs

/-! ### Observers -/

def Event.withoutOffsets : Event → Event
  | .before name tokens => .before name (Calculator.withoutOffsets tokens)
  | .after name tokens result =>
      .after name (Calculator.withoutOffsets tokens) (Calculator.withoutOffsets result)

/-- The observer does the same on events that are the same, offsets apart. -/
def Observer.IgnoresOffsets {σ : Type} (o : Observer σ) : Prop :=
  ∀ event event', event.withoutOffsets = event'.withoutOffsets → o.notice event = o.notice event'

theorem Observer.ignoresOffsets_silent : Observer.silent.IgnoresOffsets := fun _ _ _ => rfl

theorem Tracer.ignoresOffsets (t : Tracer) : t.observer.IgnoresOffsets := by
  have hprint : ∀ {tokens tokens' : List Token}, withoutOffsets tokens = withoutOffsets tokens' →
      ({} : Printer).tokens tokens = ({} : Printer).tokens tokens' := by
    intro tokens tokens' h
    rw [← tokens_withoutOffsets, h, tokens_withoutOffsets]
  intro event event' h
  show t.notice event = t.notice event'
  cases event with
  | before name tokens =>
    cases event' with
    | before name' tokens' =>
      obtain ⟨rfl, htokens⟩ := Event.before.inj h
      simp only [notice, write, printed, hprint htokens]
    | after name' tokens' result' => cases h
  | after name tokens result =>
    cases event' with
    | before name' tokens' => cases h
    | after name' tokens' result' =>
      obtain ⟨rfl, htokens, hresult⟩ := Event.after.inj h
      simp only [notice, write, printed, hprint htokens, hprint hresult]

section Runs

variable {σ : Type} {order : Prop} {o : Observer σ} (ho : o.IgnoresOffsets)
include ho

theorem seeAlike_of_ignoresOffsets (name : String) :
    SeeAlike (.ofRel Eq) Failure.Same o o name (List.Forall₂ SameButOffset)
      (List.Forall₂ SameButOffset) (List.Forall₂ SameButOffset) := by
  have hnotice : ∀ {holds : Prop} (event event' : Event),
      event.withoutOffsets = event'.withoutOffsets → holds →
      (o.notice event).Alike (.ofRel Eq) (fun _ _ => holds) Failure.Same (o.notice event') := by
    intro holds event event' h hholds
    rw [ho event event' h]
    rintro noted _ rfl _ _
    exact ⟨rfl, .refl (fun _ => hholds) fun _ => rfl⟩
  constructor
  · intro tokens tokens' h
    exact hnotice _ _ (congrArg (Event.before name) (forall₂_sameButOffset.mp h)) h
  · intro tokens tokens' r r' h hr
    refine hnotice _ _ ?_ trivial
    rw [Event.withoutOffsets, Event.withoutOffsets, forall₂_sameButOffset.mp h,
      forall₂_sameButOffset.mp hr]

/-- Runs of the same tokens, offsets apart, are the same, and so is what an observer notes of them
when it ignores offsets. -/
theorem alike_run (settings : Settings) {tokens tokens' : List Token}
    (h : List.Forall₂ SameButOffset tokens tokens') (limit : Option Nat) :
    (settings.pipeline.run o tokens limit).Alike ((Comparison.ofRel Eq).onRun (BoundAlike order))
      (List.Forall₂ SameButOffset) Failure.Same (settings.pipeline.run o tokens' limit) := by
  have hlead : Lead (.ofRel Eq) (BoundAlike order) (List.Forall₂ SameButOffset)
      (List.Forall₂ SameButOffset) Failure.Same o o (List.Forall₂ SameButOffset)
      settings.pipeline.passes (List.Forall₂ SameButOffset) :=
    lead_of_forall fun p hp => ⟨traceable_pipeline settings p hp,
      seeAlike_of_ignoresOffsets ho p.name, keepsAlike_pipeline settings p hp⟩
  rw [Pipeline.run, Pipeline.run, Pipeline.depthFor, Pipeline.depthFor, h.length_eq]
  exact Pipeline.alike_runWithin (fun _ => Action.reflects_any _) (fun _ => Action.reflects_any _)
    hlead (fun _ _ h => h) rfl _ h

end Runs

/-! ### Lines -/

def Verdict.withoutOffset : Verdict → Verdict
  | .value n => .value n
  | .error e => .error { e with token := e.token.map Token.withoutOffset }

/-- Reports on two sources with the same verdict, tokens and traced lines, offsets apart: the same
value, or an error of the same kind and with the same message. -/
structure Report.Same (r r' : Report) : Prop where
  verdict : r.verdict.withoutOffset = r'.verdict.withoutOffset
  tokens : withoutOffsets r.tokens = withoutOffsets r'.tokens
  traced : r.traced = r'.traced

/-- What has become of two lines, when it is the same but for offsets. -/
structure Handled.Same (h h' : Handled) : Prop where
  env : h.session.env.Bound SameButOffset h'.session.env
  log : h.log = h'.log
  report : Agree Report.Same Failure.Same h.report h'.report

theorem Failure.Same.cases {f g : Failure} (h : f.Same g) :
    (∃ e e', f = .evaluation e ∧ g = .evaluation e' ∧
      (Verdict.error e).withoutOffset = (Verdict.error e').withoutOffset) ∨
    f = g ∧ ∀ e, f ≠ .evaluation e := by
  by_cases hf : ∃ e, f = .evaluation e
  · obtain ⟨e, rfl⟩ := hf
    cases g with
    | evaluation e' =>
      exact .inl ⟨e, e', rfl, rfl, congrArg Verdict.error (Failure.evaluation.inj h)⟩
    | _ => cases h
  · refine .inr ⟨?_, fun e he => hf ⟨e, he⟩⟩
    have hleft : f.withoutOffset = f := by
      cases f with
      | evaluation e => exact absurd ⟨e, rfl⟩ hf
      | _ => rfl
    rw [Failure.Same, hleft] at h
    cases g with
    | evaluation e' => exact absurd ⟨_, h⟩ hf
    | _ => exact h

/-- What is reported of a failure, with the tokens that were left. -/
def Report.ofFailure (source : String) (traced : List String) (tokens : List Token) :
    Failure → Except Failure Report
  | .evaluation e => .ok ⟨source, .error e, tokens, traced⟩
  | f => .error f

theorem Failure.Same.agree_ofFailure {f g : Failure} (h : f.Same g) (source source' : String)
    (traced : List String) {tokens tokens' : List Token}
    (ht : withoutOffsets tokens = withoutOffsets tokens') :
    Agree Report.Same Failure.Same (Report.ofFailure source traced tokens f)
      (Report.ofFailure source' traced tokens' g) := by
  rcases h.cases with ⟨e, e', rfl, rfl, he⟩ | ⟨rfl, he⟩
  · exact .ok ⟨he, ht, rfl⟩
  · cases f with
    | evaluation e => exact absurd rfl (he e)
    | _ => exact .error rfl

theorem agree_finalValue {tokens tokens' : List Token}
    (h : List.Forall₂ SameButOffset tokens tokens') :
    Agree Eq Failure.Same (finalValue tokens) (finalValue tokens') := by
  apply agree_of_withoutOffsets (f := id)
  rw [← finalValue_withoutOffsets, forall₂_sameButOffset.mp h, finalValue_withoutOffsets]

namespace Session

theorem reportOf_error (source : String) (traced : List String) (f : Failure) :
    reportOf source traced (.error f) = Report.ofFailure source traced [] f := by
  cases f <;> rfl

theorem reportOf_ok (source : String) (traced : List String) (tokens : List Token) :
    reportOf source traced (.ok tokens) =
      match finalValue tokens with
      | .ok n => .ok ⟨source, .value n, tokens, traced⟩
      | .error f => Report.ofFailure source traced tokens f := by
  rw [reportOf]
  cases finalValue tokens with
  | ok n => rfl
  | error f => cases f <;> rfl

theorem agree_reportOf (source source' : String) {traced traced' : List String}
    (ht : traced = traced') {run run' : Except Failure (List Token)}
    (h : Agree (List.Forall₂ SameButOffset) Failure.Same run run') :
    Agree Report.Same Failure.Same (reportOf source traced run)
      (reportOf source' traced' run') := by
  subst ht
  cases h with
  | error h =>
    rw [reportOf_error, reportOf_error]
    exact h.agree_ofFailure source source' traced rfl
  | @ok tokens tokens' h =>
    have htokens := forall₂_sameButOffset.mp h
    have hvalue := agree_finalValue h
    rw [reportOf_ok, reportOf_ok]
    generalize finalValue tokens = x, finalValue tokens' = y at hvalue ⊢
    cases hvalue with
    | ok hn => exact .ok ⟨congrArg Verdict.value hn, htokens, rfl⟩
    | error h => exact h.agree_ofFailure source source' traced htokens

theorem boundAlike_bindOn {order : Prop} (settings : Settings) {env env' : Environment}
    (h : BoundAlike order env env') :
    BoundAlike order (settings.bindOn env) (settings.bindOn env') := by
  rw [Settings.bindOn, Settings.bindOn]
  generalize settings.bindings = bindings
  induction bindings generalizing env env' with
  | nil => exact h
  | cons b bindings ih => exact ih (boundAlike_insert h b.1 rfl)

/-- Sessions of the same settings that bind the same, offsets apart, and whose instruments make no
difference. -/
structure Alike (settings : Settings) (order : Prop) (s s' : Session) : Prop where
  left : s.settings = settings ∧ s.pipeline = settings.pipeline
  right : s'.settings = settings ∧ s'.pipeline = settings.pipeline
  env : BoundAlike order s.env s'.env
  instruments : s.instruments.Alike settings s'.instruments

variable {settings : Settings} {order : Prop} {s s' : Session} {source source' : String}

/-- A line comes to the same in two sessions that are alike, and they are so after it. -/
theorem Alike.handle (hs : Alike settings order s s') (h : SameButBlanks source source')
    (limit : Option Nat) :
    (s.handle source limit).Same (s'.handle source' limit) ∧
      Alike settings order (s.handle source limit).session (s'.handle source' limit).session := by
  obtain ⟨⟨hsettings, hpipeline⟩, ⟨hsettings', hpipeline'⟩, henv, hi⟩ := hs
  have htokens := sameButOffset_tokenize h
  rw [Session.handle, Session.handle, hsettings, hsettings', hpipeline, hpipeline']
  cases ht : settings.tracer? s.instruments with
  | none =>
    have ht' : settings.tracer? s'.instruments = none :=
      Settings.tracer?_eq_none_iff.mpr (Settings.tracer?_eq_none_iff.mp ht)
    obtain ⟨⟨hbound, -⟩, hagree⟩ := alike_run Observer.ignoresOffsets_silent settings htokens limit
      ⟨s.env, ()⟩ ⟨s'.env, ()⟩ ⟨henv, rfl⟩ trivial trivial
    rw [ht']
    exact ⟨⟨hbound.1, rfl, agree_reportOf source source' rfl hagree⟩, ⟨rfl, rfl⟩, ⟨rfl, rfl⟩,
      hbound, hi⟩
  | some tracer =>
    cases ht' : settings.tracer? s'.instruments with
    | none =>
      rw [Settings.tracer?_eq_none_iff.mpr (Settings.tracer?_eq_none_iff.mp ht')] at ht
      cases ht
    | some tracer' =>
      obtain ⟨⟨hbound, hlog⟩, hagree⟩ := alike_run tracer.ignoresOffsets settings htokens limit
        ⟨s.env, {}⟩ ⟨s'.env, {}⟩ ⟨henv, rfl⟩ trivial trivial
      dsimp only
      rw [← hi.observer_eq ht ht']
      have hlines := congrArg TraceLog.lines hlog
      have hreadings := congrArg TraceLog.readings hlog
      refine ⟨⟨hbound.1, hlog, agree_reportOf source source' hlines hagree⟩, ⟨rfl, rfl⟩,
        ⟨rfl, rfl⟩, hbound, ?_⟩
      dsimp only at hreadings ⊢
      rw [hreadings]
      exact hi.advance _

/-- After the same lines, blanks apart, sessions that are alike are so again. -/
theorem Alike.afterWithin (hs : Alike settings order s s')
    {lines lines' : List (String × Option Nat)}
    (hlines : List.Forall₂ LineAlike lines lines') :
    Alike settings order (s.afterWithin lines) (s'.afterWithin lines') := by
  induction hlines generalizing s s' with
  | nil => exact hs
  | @cons l l' lines lines' hline _ ih =>
    obtain ⟨hblanks, hlimit⟩ := hline
    have hstep := (hs.handle hblanks l.2).2
    rw [Session.afterWithin, Session.afterWithin, List.foldl_cons, List.foldl_cons, ← hlimit]
    exact ih hstep

/-- Sessions with the same settings that start with the same bindings and read the same lines,
blanks apart, come to the same on every line: to the same value, or to an error of the same kind and
with the same message that points at the same token, with the same tokens and traced lines.  They
bind the same after it, offsets apart, and in the same order if they started so.  Their clocks must
show the same times for that, unless no line of the tracer shows any. -/
theorem handle_of_sameButBlanks (settings : Settings) {env env' : Environment}
    (henv : env.Bound SameButOffset env') {i i' : Instruments} (hi : i.Alike settings i')
    {lines lines' : List (String × Option Nat)}
    (hlines : List.Forall₂ LineAlike lines lines')
    {source source' : String} (h : SameButBlanks source source') (limit : Option Nat) :
    let handled := ((start settings env i).afterWithin lines).handle source limit
    let handled' := ((start settings env' i').afterWithin lines').handle source' limit
    handled.Same handled' ∧
      (env.names = env'.names → handled.session.env.names = handled'.session.env.names) := by
  have hstart : Alike settings (env.names = env'.names) (start settings env i)
      (start settings env' i') :=
    ⟨⟨rfl, rfl⟩, ⟨rfl, rfl⟩, boundAlike_bindOn settings ⟨henv, id⟩, hi⟩
  obtain ⟨hsame, hafter⟩ := (hstart.afterWithin hlines).handle h limit
  exact ⟨hsame, hafter.env.2⟩

/-- A traced session with a binding at two offsets, which reads an assignment and then a line that
has no end, at two times of day. -/
theorem handle_of_spacedLines :
    let env := Environment.empty.insert "y" (.char 'x' (some 6))
    let env' := Environment.empty.insert "y" (.char 'x' (some 9))
    let settings : Settings := { traceCalls := true }
    let i : Instruments := { clock := fun _ => "01 Jan 06:00:00" }
    let i' : Instruments := { clock := fun _ => "01 Jan 18:00:00" }
    SameButBlanks "set(x,2)" " set( x , 2 )" ∧ SameButBlanks "(x+y" "( x + y" ∧
      (((start settings env i).afterWithin [("set(x,2)", none)]).handle "(x+y" (some 200)).Same
        (((start settings env' i').afterWithin [(" set( x , 2 )", none)]).handle "( x + y"
          (some 200)) := by
  intro env env' settings i i'
  have hline : SameButBlanks "set(x,2)" " set( x , 2 )" := by
    unfold SameButBlanks
    decide
  have hsource : SameButBlanks "(x+y" "( x + y" := by
    unfold SameButBlanks
    decide
  have hempty : Environment.empty.Bound SameButOffset .empty := fun _ => .none
  have henv : env.Bound SameButOffset env' := hempty.insert "y" rfl
  have hi : i.Alike settings i' :=
    ⟨fun _ => rfl, .inr (Settings.timeless_of_default rfl rfl)⟩
  have hlines : List.Forall₂ LineAlike [("set(x,2)", none)] [(" set( x , 2 )", none)] :=
    .cons ⟨hline, rfl⟩ .nil
  exact ⟨hline, hsource,
    (handle_of_sameButBlanks settings henv hi hlines hsource (some 200)).1⟩

end Session

end Calculator
