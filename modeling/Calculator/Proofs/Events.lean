import Mathlib.Data.List.Forall2
import Calculator.Proofs.Folding
import Calculator.Proofs.Histories
import Calculator.Proofs.Rendering

/-! Events of a run.  The reports before and after passes match like parentheses, and where a run is
stopped those before the active passes are left open.  So wherever a tracer is told of an event, its
depth is the number of pairs around the event.  Called directly with any reports, a tracer is as
deep as it was but for the reports that have no partner. -/

namespace Calculator

/-- An event, and how many pairs of events enclose it. -/
structure Mark where
  level : Nat
  event : Event
  deriving DecidableEq

/-- Events that match: the one after a pass has the name and the tokens of the one before it, and
what stands between the two lies one level deeper.  The events `opened` are left open, the outermost
first. -/
inductive Bracketed : Nat → List Event → List Mark → Prop
  | nil {level : Nat} : Bracketed level [] []
  | pair {level : Nat} {name : String} {tokens result : List Token} {opened : List Event}
      {inside rest : List Mark} : Bracketed (level + 1) [] inside → Bracketed level opened rest →
      Bracketed level opened (⟨level, .before name tokens⟩ :: inside
        ++ ⟨level, .after name tokens result⟩ :: rest)
  | left {level : Nat} {name : String} {tokens : List Token} {opened : List Event}
      {inside : List Mark} : Bracketed (level + 1) opened inside →
      Bracketed level (.before name tokens :: opened) (⟨level, .before name tokens⟩ :: inside)

theorem Bracketed.append {level : Nat} {opened : List Event} {first second : List Mark}
    (h : Bracketed level [] first) (h' : Bracketed level opened second) :
    Bracketed level opened (first ++ second) := by
  generalize hnone : ([] : List Event) = none at h
  induction h with
  | nil => exact h'
  | pair hinside _ _ ih =>
    rw [List.append_assoc, List.cons_append]
    exact .pair hinside (ih h' hnone)
  | left _ _ => cases hnone

namespace History

variable {scope : Scope} {ended : Bool}

/-- The events of a history, which lies within `level` pairs of others. -/
def marks (level : Nat) : {scope : Scope} → {ended : Bool} → History scope ended → List Mark
  | _, _, .done => []
  | _, _, .failed => []
  | _, _, .pass p tokens inside result rest =>
      if p.traceable then
        ⟨level, .before p.name tokens⟩ :: inside.marks (level + 1)
          ++ ⟨level, .after p.name tokens result⟩ :: rest.marks level
      else inside.marks level ++ rest.marks level
  | _, _, .stopped p tokens inside =>
      if p.traceable then ⟨level, .before p.name tokens⟩ :: inside.marks (level + 1)
      else inside.marks level
  | _, _, .run _ course rest => course.marks level ++ rest.marks level
  | _, _, .broken _ course => course.marks level

theorem map_event_marks (h : History scope ended) (level : Nat) :
    (h.marks level).map Mark.event = h.events := by
  induction h generalizing level with
  | done => rfl
  | failed => rfl
  | pass p tokens inside result rest hinside hrest =>
    rw [marks, events, Call.events]
    split <;> simp [hinside, hrest]
  | stopped p tokens inside hinside =>
    rw [marks, events, Call.events]
    split <;> simp [hinside]
  | run group course rest hcourse hrest =>
    rw [marks, events, List.map_append, hcourse, hrest]
  | broken group course hcourse => exact hcourse level

/-- The reports before the traceable passes that are active, the outermost first. -/
def begun (h : History scope ended) : List Event :=
  (h.active.filter fun c => c.pass.traceable).map fun c => .before c.pass.name c.tokens

theorem begun_eq_nil (h : History scope true) : h.begun = [] := by
  rw [begun, active_eq_nil rfl]
  rfl

/-- The events of a history match, but for those before the passes that are active. -/
theorem bracketed (h : History scope ended) (level : Nat) :
    Bracketed level h.begun (h.marks level) := by
  induction h generalizing level with
  | done => exact .nil
  | failed => exact .nil
  | pass p tokens inside result rest hinside hrest =>
    rw [begun, active_pass, active_eq_nil rfl, List.nil_append, ← begun, marks]
    simp only [begun_eq_nil] at hinside
    split
    · exact .pair (hinside (level + 1)) (hrest level)
    · exact (hinside level).append (hrest level)
  | stopped p tokens inside hinside =>
    rw [begun, active_stopped, marks, List.filter_cons]
    split
    · exact .left (hinside (level + 1))
    · exact hinside level
  | run group course rest hcourse hrest =>
    rw [begun, active_run, active_eq_nil rfl, List.nil_append, ← begun]
    simp only [begun_eq_nil] at hcourse
    exact (hcourse level).append (hrest level)
  | broken group course hcourse => exact hcourse level

end History

/-! ### Levels along a sequence -/

/-- Level by level through some events: from one level to another, each event at the level that a
tracer would write it at. -/
inductive Levelled : Nat → List Mark → Nat → Prop
  | nil {level : Nat} : Levelled level [] level
  | before {level last : Nat} {name : String} {tokens : List Token} {rest : List Mark} :
      Levelled (level + 1) rest last →
      Levelled level (⟨level, .before name tokens⟩ :: rest) last
  | after {level last : Nat} {name : String} {tokens result : List Token} {rest : List Mark} :
      Levelled level rest last →
      Levelled (level + 1) (⟨level, .after name tokens result⟩ :: rest) last

theorem Levelled.append {level mid last : Nat} {first second : List Mark}
    (h : Levelled level first mid) (h' : Levelled mid second last) :
    Levelled level (first ++ second) last := by
  induction h with
  | nil => exact h'
  | before _ ih => exact .before (ih h')
  | after _ ih => exact .after (ih h')

theorem Bracketed.levelled {level : Nat} {opened : List Event} {marks : List Mark}
    (h : Bracketed level opened marks) : Levelled level marks (level + opened.length) := by
  induction h with
  | nil => exact .nil
  | pair _ _ hinside hrest => exact .before (hinside.append (.after hrest))
  | @left level name tokens opened inside _ ih =>
    have hlength : level + (opened.length + 1) = level + 1 + opened.length := by omega
    rw [List.length_cons, hlength]
    exact .before ih

/-! ### Lines -/

namespace Tracer

/-- Whether a line is written for an event. -/
def shows (t : Tracer) (m : Mark) : Bool :=
  match m.event with
  | .before _ _ => t.calls
  | .after _ _ _ => t.results

/-- The line for an event, at a reading of the clock. -/
def lineOf (t : Tracer) (reading : Nat) (m : Mark) : Except Failure String :=
  match m.event with
  | .before name tokens =>
      t.line t.callTemplate name tokens none m.level (t.instruments.clock reading)
  | .after name tokens result =>
      t.line t.resultTemplate name tokens (some result) m.level (t.instruments.clock reading)

/-- The lines for some events, from a reading of the clock on. -/
def linesOf (t : Tracer) : Nat → List Mark → Except Failure (List String)
  | _, [] => .ok []
  | reading, m :: marks =>
      if t.shows m then do
        let line ← t.lineOf reading m
        let lines ← linesOf t (reading + 1) marks
        .ok (line :: lines)
      else linesOf t reading marks

variable {t : Tracer} {m : Mark} {marks : List Mark} {line : String} {lines : List String}
  {reading : Nat}

/-- A line is indented by the level of its event. -/
theorem indented_of_lineOf (h : t.lineOf reading m = .ok line) :
    ∃ text, line = String.join (List.replicate m.level t.indent) ++ text := by
  have hline : ∀ {template name tokens result level time},
      t.line template name tokens result level time = .ok line →
        ∃ text, line = String.join (List.replicate level t.indent) ++ text := by
    intro template name tokens result level time h
    rw [line_eq] at h
    split at h
    · split at h
      · rename_i text _
        exact ⟨text, (Except.ok.inj h).symm⟩
      · cases h
    · cases h
  rw [lineOf] at h
  split at h <;> exact hline h

@[simp] theorem linesOf_nil : t.linesOf reading [] = .ok [] := rfl

theorem linesOf_shown (h : t.shows m = true) :
    t.linesOf reading [m] = (t.lineOf reading m).map fun line => [line] := by
  rw [linesOf, if_pos h]
  cases t.lineOf reading m <;> rfl

theorem linesOf_hidden (h : t.shows m = false) : t.linesOf reading [m] = .ok [] := by
  rw [linesOf, if_neg (by simp [h])]
  rfl

theorem linesOf_cons (m : Mark) (marks : List Mark) :
    t.linesOf reading (m :: marks) = (do
      let first ← t.linesOf reading [m]
      let rest ← t.linesOf (reading + first.length) marks
      .ok (first ++ rest)) := by
  cases h : t.shows m with
  | true =>
    rw [linesOf_shown h, linesOf, if_pos h]
    cases t.lineOf reading m <;> rfl
  | false =>
    rw [linesOf_hidden h, linesOf, if_neg (by simp [h]), Except.ok_bind]
    exact (bind_pure (t.linesOf reading marks)).symm

/-- Each line is that of its event, and of one more reading of the clock than the one before. -/
theorem forall₂_of_linesOf (h : t.linesOf reading marks = .ok lines) :
    List.Forall₂ (fun q line => t.lineOf q.2 q.1 = .ok line)
      ((marks.filter t.shows).zipIdx reading) lines := by
  induction marks generalizing reading lines with
  | nil =>
    obtain rfl := Except.ok.inj h
    exact .nil
  | cons m marks ih =>
    rw [linesOf] at h
    split at h
    · rename_i hshown
      obtain ⟨line, hline, h⟩ := Except.bind_eq_ok_iff.mp h
      obtain ⟨rest, hrest, h⟩ := Except.bind_eq_ok_iff.mp h
      obtain rfl := Except.ok.inj h
      rw [List.filter_cons_of_pos hshown, List.zipIdx_cons]
      exact .cons hline (ih hrest)
    · rename_i hhidden
      rw [List.filter_cons_of_neg hhidden]
      exact ih h

/-- Every line is that of one of the events. -/
theorem exists_mark_of_mem_linesOf (h : t.linesOf reading marks = .ok lines)
    (hline : line ∈ lines) : ∃ m ∈ marks, ∃ reading, t.lineOf reading m = .ok line := by
  have hpaired := forall₂_of_linesOf h
  have hshown : ∀ q ∈ (marks.filter t.shows).zipIdx reading, q.1 ∈ marks := fun q hq =>
    (List.mem_filter.mp (List.fst_mem_of_mem_zipIdx hq)).1
  generalize (marks.filter t.shows).zipIdx reading = shown at hpaired hshown
  clear h
  induction hpaired with
  | nil => cases hline
  | cons hof _ ih =>
    obtain ⟨hm, hshown⟩ := List.forall_mem_cons.mp hshown
    rcases List.mem_cons.mp hline with rfl | hline
    · exact ⟨_, hm, _, hof⟩
    · exact ih hline hshown

/-! ### Tracers -/

theorem result_notice_before (name : String) (tokens : List Token) (log : TraceLog) :
    (t.notice (.before name tokens)).result log =
      match t.linesOf log.readings [⟨log.depth, .before name tokens⟩] with
      | .ok written => (.ok (), log.extend (log.depth + 1) written)
      | .error f => (.error f, log.stoppedBy f) := by
  let m : Mark := ⟨log.depth, .before name tokens⟩
  have hline : t.lineOf log.readings m =
    t.line t.callTemplate name tokens none log.depth (t.instruments.clock log.readings) := rfl
  rw [notice]
  by_cases hcalls : t.calls = true
  · rw [if_pos hcalls, linesOf_shown (show t.shows m = true from hcalls), hline,
      Action.result_bind, result_write]
    cases t.line t.callTemplate name tokens none log.depth
      (t.instruments.clock log.readings) <;> rfl
  · rw [if_neg hcalls, linesOf_hidden (show t.shows m = false from Bool.eq_false_iff.mpr hcalls)]
    simp only [TraceLog.extend_nil]
    rfl

theorem result_notice_after (name : String) (tokens result : List Token) (log : TraceLog) :
    (t.notice (.after name tokens result)).result log =
      match t.linesOf log.readings [⟨log.depth - 1, .after name tokens result⟩] with
      | .ok written => (.ok (), log.extend (log.depth - 1) written)
      | .error f => (.error f, ({ log with depth := log.depth - 1 } : TraceLog).stoppedBy f) := by
  let m : Mark := ⟨log.depth - 1, .after name tokens result⟩
  have hline : t.lineOf log.readings m = t.line t.resultTemplate name tokens (some result)
    (log.depth - 1) (t.instruments.clock log.readings) := rfl
  rw [notice, Action.result_bind, Action.result_modify]
  by_cases hresults : t.results = true
  · rw [linesOf_shown (show t.shows m = true from hresults), hline]
    simp only [if_pos hresults, result_write]
    cases t.line t.resultTemplate name tokens (some result) (log.depth - 1)
      (t.instruments.clock log.readings) <;> rfl
  · rw [linesOf_hidden (show t.shows m = false from Bool.eq_false_iff.mpr hresults)]
    simp only [if_neg hresults, TraceLog.extend_nil]
    rfl

/-- A tracer that is told of some events at the depth `level` writes their lines and is then at the
depth `last`; where a line cannot be written it stops, with the lines before that one written. -/
def Follows (t : Tracer) (level : Nat) (marks : List Mark) (last : Nat) : Prop :=
  ∀ log : TraceLog, log.depth = level → match t.linesOf log.readings marks with
    | .ok written => (t.observer.feed (marks.map Mark.event)).result log =
        (.ok (), log.extend last written)
    | .error f => ∃ before behind written stopped, marks = before ++ behind ∧
        t.linesOf log.readings before = .ok written ∧
        (t.observer.feed (marks.map Mark.event)).result log = (.error f, stopped) ∧
        stopped.lines = log.lines ++ written

theorem Follows.cons {level next last : Nat} (stop : TraceLog → Failure → TraceLog)
    (hstop : ∀ log f, (stop log f).lines = log.lines)
    (hnotice : ∀ log : TraceLog, log.depth = level → (t.notice m.event).result log =
      match t.linesOf log.readings [m] with
      | .ok written => (.ok (), log.extend next written)
      | .error f => (.error f, stop log f))
    (hrest : t.Follows next marks last) : t.Follows level (m :: marks) last := by
  intro log hdepth
  have hobserved : t.observer.notice m.event = t.notice m.event := rfl
  rw [List.map_cons, Observer.feed_cons, hobserved, hnotice log hdepth, linesOf_cons]
  cases hm : t.linesOf log.readings [m] with
  | error f =>
    exact ⟨[], m :: marks, [], stop log f, rfl, rfl, rfl, by rw [hstop, List.append_nil]⟩
  | ok first =>
    have hfed := hrest (log.extend next first) rfl
    rw [TraceLog.readings_extend] at hfed
    rw [Except.ok_bind]
    cases hmarks : t.linesOf (log.readings + first.length) marks with
    | ok rest =>
      rw [hmarks] at hfed
      simp only [Except.ok_bind, hfed, TraceLog.extend_extend]
    | error f =>
      rw [hmarks] at hfed
      obtain ⟨before, behind, written, stopped, rfl, hwritten, hresult, hlines⟩ := hfed
      refine ⟨m :: before, behind, first ++ written, stopped, rfl, ?_, hresult, ?_⟩
      · rw [linesOf_cons, hm, Except.ok_bind, hwritten]
        rfl
      · rw [hlines, TraceLog.lines_extend, List.append_assoc]

/-- Level by level, a tracer follows. -/
theorem follows_of_levelled {level last : Nat} (h : Levelled level marks last) :
    t.Follows level marks last := by
  induction h with
  | nil =>
    rintro log rfl
    show _ = (Except.ok (), log.extend log.depth [])
    rw [TraceLog.extend_nil]
    rfl
  | @before level _ name tokens _ _ ih =>
    refine .cons TraceLog.stoppedBy (fun _ _ => rfl) ?_ ih
    rintro log rfl
    exact result_notice_before name tokens log
  | @after level _ name tokens result _ _ ih =>
    let stop (log : TraceLog) : Failure → TraceLog :=
      ({ log with depth := level } : TraceLog).stoppedBy
    refine .cons stop (fun _ _ => rfl) ?_ ih
    intro log hdepth
    have hnotice := result_notice_after (t := t) name tokens result log
    rwa [hdepth, Nat.add_sub_cancel] at hnotice

end Tracer

/-! ### Direct calls -/

/-- Whether an event reports that a pass begins. -/
def Event.isBefore : Event → Bool
  | .before _ _ => true
  | .after _ _ _ => false

/-- One more report, when `closed` reports after a pass and `opened` reports before one have no
partner so far. -/
def Event.pairUp : Nat × Nat → Event → Nat × Nat
  | (closed, opened), .before _ _ => (closed, opened + 1)
  | (closed, 0), .after _ _ _ => (closed + 1, 0)
  | (closed, opened + 1), .after _ _ _ => (closed, opened)

/-- How many reports after a pass, and how many before one, have no partner. -/
def unpaired (events : List Event) : Nat × Nat := events.foldl Event.pairUp (0, 0)

namespace Tracer

/-- The log after some calls, each made whatever has become of those before it. -/
def afterCalls (t : Tracer) (log : TraceLog) (calls : List Event) : TraceLog :=
  calls.foldl (fun log event => ((t.notice event).result log).2) log

/-- What a call counts as: nothing if it is one before a pass and its line cannot be written. -/
def counts (t : Tracer) (log : TraceLog) (event : Event) : List Event :=
  if event.isBefore && !((t.notice event).result log).1.isOk then [] else [event]

/-- The calls that count. -/
def counted (t : Tracer) : TraceLog → List Event → List Event
  | _, [] => []
  | log, event :: calls =>
      t.counts log event ++ t.counted ((t.notice event).result log).2 calls

variable {t : Tracer}

/-- The depth stays where it is put by the calls that count. -/
theorem depth_notice (event : Event) {log : TraceLog} {depth : Nat} {pair : Nat × Nat}
    (h : log.depth = depth - pair.1 + pair.2) :
    ((t.notice event).result log).2.depth =
      depth - ((t.counts log event).foldl Event.pairUp pair).1
        + ((t.counts log event).foldl Event.pairUp pair).2 := by
  obtain ⟨closed, opened⟩ := pair
  have h : log.depth = depth - closed + opened := h
  cases event with
  | before name tokens =>
    rw [counts, result_notice_before]
    cases t.linesOf log.readings [⟨log.depth, .before name tokens⟩] with
    | ok written => exact (show log.depth + 1 = depth - closed + (opened + 1) by omega)
    | error f => exact h
  | after name tokens result =>
    have hnext : log.depth - 1 =
        depth - (Event.pairUp (closed, opened) (.after name tokens result)).1
          + (Event.pairUp (closed, opened) (.after name tokens result)).2 := by
      -- the depth stops at zero, where the report has no partner
      cases opened with
      | zero => exact (show log.depth - 1 = depth - (closed + 1) + 0 by omega)
      | succ opened => exact (show log.depth - 1 = depth - closed + opened by omega)
    rw [counts, result_notice_after]
    cases t.linesOf log.readings [⟨log.depth - 1, .after name tokens result⟩] <;> exact hnext

theorem depth_afterCalls_from (calls : List Event) {log : TraceLog} {depth : Nat}
    {pair : Nat × Nat} (h : log.depth = depth - pair.1 + pair.2) :
    (t.afterCalls log calls).depth =
      depth - ((t.counted log calls).foldl Event.pairUp pair).1
        + ((t.counted log calls).foldl Event.pairUp pair).2 := by
  induction calls generalizing log pair with
  | nil => exact h
  | cons event calls ih =>
    rw [afterCalls, List.foldl_cons, ← afterCalls, counted, List.foldl_append]
    exact ih (depth_notice event h)

/-- Each report after a pass that has no partner takes one off the depth, down to zero, and each one
before a pass that has none adds one. -/
theorem depth_afterCalls (log : TraceLog) (calls : List Event) :
    (t.afterCalls log calls).depth =
      log.depth - (unpaired (t.counted log calls)).1 + (unpaired (t.counted log calls)).2 :=
  depth_afterCalls_from calls rfl

/-- All calls count when none fails. -/
theorem counted_of_feed {calls : List Event} {log final : TraceLog}
    (h : (t.observer.feed calls).result log = (.ok (), final)) :
    t.counted log calls = calls ∧ t.afterCalls log calls = final := by
  induction calls generalizing log with
  | nil => exact ⟨rfl, (Prod.mk.inj h).2⟩
  | cons event calls ih =>
    have hobserved : t.observer.notice event = t.notice event := rfl
    rw [Observer.feed_cons, hobserved] at h
    rw [counted, afterCalls, List.foldl_cons, ← afterCalls]
    rcases hnotice : (t.notice event).result log with ⟨_ | _, log'⟩
    · rw [hnotice] at h
      cases (Prod.mk.inj h).1
    · rw [hnotice] at h
      obtain ⟨hcounted, hafter⟩ := ih h
      have hcounts : t.counts log event = [event] := by
        rw [counts, hnotice]
        exact if_neg (by simp [Except.isOk, Except.toBool])
      rw [hcounts, hcounted]
      exact ⟨rfl, hafter⟩

end Tracer

/-! ### Runs -/

theorem Course.begun_eq_nil {c : Course .passes} {result : List Token}
    (h : c.outcome = .ok result) : c.history.begun = [] := by
  cases c with
  | ended result env history => exact history.begun_eq_nil
  | stopped e env history => cases h

namespace Pipeline

variable {l : Pipeline} {tokens : List Token} {env : Environment}

/-- A traced run that succeeds ends at the depth it has started at, with the lines of its events
written. -/
theorem traced_of_ok {t : Tracer} {log : TraceLog} {result : List Token}
    {final : RunState TraceLog}
    (h : (run t.observer l tokens).result ⟨env, log⟩ = (.ok result, final)) :
    ∃ written, t.linesOf log.readings ((l.course tokens env).history.marks log.depth) =
        .ok written ∧
      final.noted = log.extend log.depth written := by
  let c := l.course tokens env
  obtain ⟨last, hrun⟩ := tells_course t.observer l tokens env log
  have hfollows := t.follows_of_levelled (c.history.bracketed log.depth).levelled log rfl
  rw [History.map_event_marks] at hfollows
  rw [h] at hrun
  show ∃ written, t.linesOf log.readings (c.history.marks log.depth) = .ok written ∧
    final.noted = log.extend log.depth written
  cases hlines : t.linesOf log.readings (c.history.marks log.depth) with
  | error f =>
    rw [hlines] at hfollows
    obtain ⟨_, _, _, _, _, _, hfed, _⟩ := hfollows
    rw [hfed] at hrun
    cases (Prod.mk.inj hrun).1
  | ok written =>
    rw [hlines] at hfollows
    rw [hfollows] at hrun
    obtain ⟨hresult, rfl⟩ := Prod.mk.inj hrun
    rw [Course.begun_eq_nil hresult.symm]
    exact ⟨written, rfl, rfl⟩

/-- The events of a run match.  What is recorded are reports of calls of traceable passes, and the
reports of each call stand around those of the runs that it has started; where the run is stopped,
exactly the reports before the traceable passes that are active are left open, the outermost first.
A tracer ends a run at the depth it has started at, and indents each line by the number of pairs
around its event.  Under direct calls the depth never gets below zero, and calls that match restore
it. -/
theorem events_bracketed (l : Pipeline) (tokens : List Token) (env : Environment) :
    let c := l.course tokens env
    let h := c.history
    (run .recorder l tokens).result ⟨env, []⟩ = (c.outcome, ⟨c.env, h.events⟩) ∧
      (∀ level, (h.marks level).map Mark.event = h.events ∧
        Bracketed level h.begun (h.marks level)) ∧
      (∀ result, c.outcome = .ok result → h.begun = []) ∧
      (∀ call ∈ h.calls, call.pass ∈ l.passes ∧ call.events <:+: h.events) ∧
      (∀ event ∈ h.events, ∃ call ∈ h.calls, call.Reports event) ∧
      (∀ (t : Tracer) (log : TraceLog) (result : List Token) (final : RunState TraceLog),
        (run t.observer l tokens).result ⟨env, log⟩ = (.ok result, final) →
          final.noted.depth = log.depth ∧ ∃ written, final.noted.lines = log.lines ++ written ∧
            List.Forall₂ (fun q line => t.lineOf q.2 q.1 = .ok line ∧
                ∃ text, line = String.join (List.replicate q.1.level t.indent) ++ text)
              (((h.marks log.depth).filter t.shows).zipIdx log.readings) written) ∧
      (∀ (t : Tracer) (log : TraceLog) (calls : List Event),
        (t.afterCalls log calls).depth = log.depth - (unpaired (t.counted log calls)).1
          + (unpaired (t.counted log calls)).2) ∧
      ∀ (t : Tracer) (log final : TraceLog) (calls : List Event), unpaired calls = (0, 0) →
        (t.observer.feed calls).result log = (.ok (), final) → final.depth = log.depth := by
  intro c h
  refine ⟨?recorded, ?bracketed, fun _ => Course.begun_eq_nil, ?calls,
    fun _ => History.exists_call_of_mem_events, ?traced,
    fun t log calls => t.depth_afterCalls log calls, ?balanced⟩
  case recorded => exact result_run_recorder l tokens env []
  case bracketed => exact fun level => ⟨h.map_event_marks level, h.bracketed level⟩
  case calls =>
    exact fun call hcall => ⟨courseWithin_isOf l _ tokens env call hcall,
      History.infix_of_mem_calls hcall⟩
  case traced =>
    intro t log result final hrun
    obtain ⟨written, hwritten, hnoted⟩ := traced_of_ok hrun
    have hwrites := Tracer.forall₂_of_linesOf hwritten
    exact ⟨by rw [hnoted]; rfl, written, by rw [hnoted]; rfl,
      hwrites.imp fun q line hline => ⟨hline, Tracer.indented_of_lineOf hline⟩⟩
  case balanced =>
    intro t log final calls hcalls hfeed
    obtain ⟨hcounted, rfl⟩ := Tracer.counted_of_feed hfeed
    rw [Tracer.depth_afterCalls, hcounted, hcalls]
    rfl

end Pipeline

end Calculator
