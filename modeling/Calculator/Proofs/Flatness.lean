import Calculator.Proofs.Events
import Calculator.Proofs.Survival

/-! Flatness of runs.  A closing parenthesis has the group before it run, and as no closing
parenthesis ever gets to the output, none is in such a group.  So the runs of groups start no
others, and a run of plain arithmetic starts one for each closing parenthesis of its tokens. -/

namespace Calculator

/-- The number of groups that some tokens close. -/
def closeCount (tokens : List Token) : Nat := tokens.countP (Token.isChar ')')

section CloseCount

variable {tokens result : List Token}

theorem closeCount_eq_zero_iff : closeCount tokens = 0 ↔ Lacks ')' tokens := by
  rw [closeCount, List.countP_eq_zero]
  simp [Lacks]

theorem closeCount_cons_of_isChar {t : Token} (ht : t.isChar ')' = true) :
    closeCount (t :: tokens) = closeCount tokens + 1 := List.countP_cons_of_pos ht

theorem closeCount_cons_of_not_isChar {t : Token} (ht : t.isChar ')' = false) :
    closeCount (t :: tokens) = closeCount tokens := List.countP_cons_of_neg (by simp [ht])

theorem closeCount_eq_of_filterMap
    (h : result.filterMap (Option.guard (Token.isChar ')')) =
      tokens.filterMap (Option.guard (Token.isChar ')'))) :
    closeCount result = closeCount tokens := by
  rw [List.filterMap_eq_filter] at h
  rw [closeCount, closeCount, List.countP_eq_length_filter, List.countP_eq_length_filter, h]

end CloseCount

/-! ### Runs and what pays for them -/

variable {scope scope' : Scope}

/-- A course that has ended has made a run for each closing parenthesis of `budget` that its result
does not have; one that was stopped has not made more runs than that. -/
def Course.Spends (budget : Nat) : Course scope → Prop
  | .ended result _ history => history.runCount + closeCount result = budget
  | .stopped _ _ history => history.runCount ≤ budget

theorem Course.Spends.of_ok {c : Course scope} {budget : Nat} (h : c.Spends budget)
    {result : List Token} (hc : c.outcome = .ok result) :
    c.history.runCount + closeCount result = budget := by
  cases c with
  | ended last env history =>
    obtain rfl := Except.ok.inj hc
    exact h
  | stopped failure env history => cases hc

/-- The runs of a course are paid for by a budget and start no others. -/
structure Course.Flat (budget : Nat) (c : Course scope) : Prop where
  spends : c.Spends budget
  nesting : c.history.nesting ≤ 1

/-- What is added to a history adds its runs. -/
theorem Course.Spends.extend {c : Course scope} {budget cost : Nat}
    {f : {ended : Bool} → History scope ended → History scope' ended} (h : c.Spends budget)
    (hf : ∀ {ended : Bool} (history : History scope ended),
      (f history).runCount = cost + history.runCount) :
    (c.extend f).Spends (cost + budget) := by
  cases c with
  | ended result env history =>
    have hspent : history.runCount + closeCount result = budget := h
    show (f history).runCount + closeCount result = cost + budget
    rw [hf]
    omega
  | stopped failure env history =>
    have hspent : history.runCount ≤ budget := h
    show (f history).runCount ≤ cost + budget
    rw [hf]
    omega

/-- A pass that keeps the closing parentheses, and has nothing run, is flat. -/
theorem Course.flat_ofEdit {tokens : List Token} {r : Except Failure (List Token) × Environment}
    (h : ∀ result, r.1 = .ok result → closeCount result = closeCount tokens) :
    (Course.ofEdit r : Course scope).Flat (closeCount tokens) := by
  obtain ⟨_ | result, env⟩ := r
  · exact ⟨Nat.zero_le _, Nat.zero_le _⟩
  · exact ⟨(Nat.zero_add _).trans (h result rfl), Nat.zero_le _⟩

section Runs

variable {course : List Token → Environment → Course .passes}

section Groups

variable (hcourse : ∀ group env, (course group env).Spends (closeCount group))
include hcourse

/-- The groups of tokens are paid for by their closing parentheses: a group has none itself, so that
its run starts no others and leaves none on the output. -/
theorem flat_groupPlan {output : List Token} (ho : Lacks ')' output) (tokens : List Token)
    (env : Environment) :
    ((groupPlan output tokens).course course env).Flat (closeCount tokens) := by
  induction tokens generalizing output env with
  | nil => exact ⟨(Nat.zero_add _).trans (closeCount_eq_zero_iff.mpr ho.reverse), Nat.zero_le _⟩
  | cons t tokens ih =>
    rw [groupPlan]
    split
    · rename_i ht
      rw [closeCount_cons_of_isChar ht]
      split
      · exact ⟨Nat.zero_le _, Nat.zero_le _⟩
      · rename_i group below hopen
        obtain ⟨paren, -, rfl, -⟩ := openGroup?_eq_some hopen
        obtain ⟨hgroup, hbelow⟩ := List.forall_mem_append.mp ho
        have hspends := hcourse group.reverse env
        rw [closeCount_eq_zero_iff.mpr (Lacks.reverse hgroup)] at hspends
        rw [Plan.course]
        cases hc : course group.reverse env with
        | ended result env' history =>
          rw [hc] at hspends
          obtain ⟨hruns, hclosed⟩ := Nat.add_eq_zero_iff.mp hspends
          have hresult : Lacks ')' result := closeCount_eq_zero_iff.mp hclosed
          have hrest := ih (hresult.reverse.append (List.forall_mem_cons.mp hbelow).2) env'
          constructor
          · rw [Nat.add_comm]
            refine hrest.spends.extend fun rest => ?_
            rw [History.runCount, hruns]
          · have hnesting := history.nesting_le_runCount
            rw [Course.history_extend _ _ History.nesting, History.nesting]
            exact max_le (by omega) hrest.nesting
        | stopped e env' history =>
          rw [hc] at hspends
          have hruns : history.runCount ≤ 0 := hspends
          have hnesting := history.nesting_le_runCount
          constructor
          · show 1 + history.runCount ≤ closeCount tokens + 1
            omega
          · show 1 + history.nesting ≤ 1
            omega
    · rename_i ht
      have ht : t.isChar ')' = false := by simpa using ht
      rw [closeCount_cons_of_not_isChar ht]
      exact ih (ho.cons ht) env

end Groups

theorem flat_ofFunction {name : String} {f : List Token → Except Failure (List Token)}
    (h : ∀ {tokens result}, f tokens = .ok result → closeCount result = closeCount tokens)
    (tokens : List Token) (env : Environment) :
    ((Pass.ofFunction name f).course course tokens env).Flat (closeCount tokens) :=
  Course.flat_ofEdit fun _ hresult => h hresult

/-- What is left of the budget by a pass pays for the runs of those after it. -/
theorem Pipeline.flat_coursePasses {passes : List Pass}
    (hp : ∀ p ∈ passes, ∀ tokens env, (p.course course tokens env).Flat (closeCount tokens))
    (tokens : List Token) (env : Environment) :
    (coursePasses course passes tokens env).Flat (closeCount tokens) := by
  induction passes generalizing tokens env with
  | nil => exact ⟨Nat.zero_add _, Nat.zero_le _⟩
  | cons p passes ih =>
    obtain ⟨hpass, hpasses⟩ := List.forall_mem_cons.mp hp
    have hflat := hpass tokens env
    rw [coursePasses]
    cases hc : p.course course tokens env with
    | ended result env' inside =>
      rw [hc] at hflat
      have hspent : inside.runCount + closeCount result = closeCount tokens := hflat.spends
      have hrest := ih hpasses result env'
      constructor
      · rw [← hspent]
        exact hrest.spends.extend fun rest => rfl
      · rw [Course.history_extend _ _ History.nesting, History.nesting]
        exact max_le hflat.nesting hrest.nesting
    | stopped e env' inside =>
      rw [hc] at hflat
      exact ⟨hflat.spends, hflat.nesting⟩

end Runs

/-- Only a closing parenthesis has a run started, and only the pass over groups takes it away. -/
theorem Pipeline.flat_arithmetic {course : List Token → Environment → Course .passes}
    (hcourse : ∀ group env, (course group env).Spends (closeCount group)) :
    ∀ p ∈ Pass.arithmetic, ∀ tokens env,
      (p.course course tokens env).Flat (closeCount tokens) := by
  have hdigit : ∀ t : Token, t.isDigit = true → Option.guard (Token.isChar ')') t = none := by
    intro t ht
    simp [Token.isChar_of_isDigit (c := ')') (by decide) ht]
  have hplain : ∀ t : Token, t.isPlain = true → Option.guard (Token.isChar ')') t = none := by
    intro t ht
    simp [Token.isChar_of_isPlain ht (Operator.char_ne (c := ')') (by decide))]
  simp only [Pass.arithmetic, List.forall_mem_cons]
  refine ⟨flat_ofFunction ?merge, flat_ofFunction ?convert, flat_groupPlan hcourse .nil,
    flat_ofFunction ?signs, flat_ofFunction ?products, flat_ofFunction ?sums, List.forall_mem_nil _⟩
  case merge =>
    intro tokens result h
    obtain rfl := Except.ok.inj h
    exact closeCount_eq_of_filterMap (filterMap_mergeDigits hdigit tokens)
  case convert =>
    exact fun h => closeCount_eq_of_filterMap (filterMap_convertNumerals hdigit (fun _ => rfl) h)
  case signs =>
    intro tokens result h
    obtain rfl := Except.ok.inj h
    exact closeCount_eq_of_filterMap (filterMap_applySigns hplain tokens)
  case products => exact fun h => closeCount_eq_of_filterMap (filterMap_foldProducts hplain h)
  case sums => exact fun h => closeCount_eq_of_filterMap (filterMap_foldSums hplain h)

theorem Pipeline.flat_courseWithin (depth : Nat) (tokens : List Token) (env : Environment) :
    (standard.courseWithin depth tokens env).Flat (closeCount tokens) := by
  induction depth generalizing tokens env with
  | zero => exact ⟨Nat.zero_le _, Nat.zero_le _⟩
  | succ depth ih =>
    exact flat_coursePasses (flat_arithmetic fun group env => (ih group env).spends) tokens env

/-! ### Reports -/

@[simp] theorem Event.isBefore_before (name : String) (tokens : List Token) :
    (before name tokens).isBefore = true := rfl

@[simp] theorem Event.isBefore_after (name : String) (tokens result : List Token) :
    (after name tokens result).isBefore = false := rfl

/-- Outside of the runs in a history `own` reported passes have begun, and in each run `each`. -/
def History.Begins {ended : Bool} (own each : Nat) (h : History scope ended) : Prop :=
  h.events.countP Event.isBefore = own + each * h.runCount

/-- So it is in the course if it has ended. -/
def Course.Begins (own each : Nat) : Course scope → Prop
  | .ended _ _ history => history.Begins own each
  | .stopped _ _ _ => True

theorem Course.Begins.extend {c : Course scope} {own own' each : Nat}
    {f : {ended : Bool} → History scope ended → History scope' ended} (h : c.Begins own each)
    (hf : ∀ history : History scope true, history.Begins own each →
      (f history).Begins own' each) : (c.extend f).Begins own' each := by
  cases c with
  | ended result env history => exact hf history h
  | stopped failure env history => trivial

theorem Course.Begins.of_ok {c : Course scope} {own each : Nat} (h : c.Begins own each)
    {result : List Token} (hc : c.outcome = .ok result) : c.history.Begins own each := by
  cases c with
  | ended last env history => exact h
  | stopped failure env history => cases hc

section Reports

variable {course : List Token → Environment → Course .passes} {each : Nat}
  (hcourse : ∀ group env, (course group env).Begins each each)
include hcourse

theorem Pass.course_begins (p : Pass) (tokens : List Token) (env : Environment) :
    (p.course course tokens env).Begins 0 each := by
  refine p.course_induct (Course.Begins each each) (Course.Begins 0 each) hcourse ?edit ?run
    (fun _ => trivial) tokens env
  case edit =>
    rintro ⟨_ | _, _⟩
    · trivial
    · exact (Nat.mul_zero each).symm
  case run =>
    intro group result env history c hgroup hrest
    refine hrest.extend fun rest hrest => ?_
    have hgroup : history.events.countP Event.isBefore = each + each * history.runCount := hgroup
    rw [History.Begins] at hrest
    rw [History.Begins, History.events, History.runCount, List.countP_append, hgroup, hrest]
    ring

theorem Pipeline.coursePasses_begins (passes : List Pass) (tokens : List Token)
    (env : Environment) :
    (coursePasses course passes tokens env).Begins (passes.countP Pass.traceable) each := by
  induction passes generalizing tokens env with
  | nil => exact (Nat.mul_zero each).symm
  | cons p passes ih =>
    have hpass := p.course_begins hcourse tokens env
    rw [coursePasses]
    cases hc : p.course course tokens env with
    | stopped e env' inside => trivial
    | ended result env' inside =>
      rw [hc] at hpass
      have hpass : inside.events.countP Event.isBefore = 0 + each * inside.runCount := hpass
      have hcall : (Call.events ⟨p, tokens, inside.events, some result⟩).countP Event.isBefore =
          inside.events.countP Event.isBefore + if p.traceable = true then 1 else 0 := by
        rw [Call.events]
        split <;> simp [List.countP_cons]
      refine (ih result env').extend fun rest hrest => ?_
      rw [History.Begins] at hrest
      rw [History.Begins, History.events, History.runCount, List.countP_append, hcall, hpass, hrest,
        List.countP_cons]
      ring

omit hcourse in
/-- In a run that has ended every run has gone through all passes. -/
theorem Pipeline.courseWithin_begins (l : Pipeline) (depth : Nat) (tokens : List Token)
    (env : Environment) :
    (l.courseWithin depth tokens env).Begins (l.passes.countP Pass.traceable)
      (l.passes.countP Pass.traceable) := by
  induction depth generalizing tokens env with
  | zero => trivial
  | succ depth ih => exact coursePasses_begins ih l.passes tokens env

end Reports

/-- As many passes are over as have begun, but for those left open. -/
theorem Bracketed.countP_isBefore {level : Nat} {opened : List Event} {marks : List Mark}
    (h : Bracketed level opened marks) :
    (marks.map Mark.event).countP Event.isBefore =
      (marks.map Mark.event).countP (fun event => !event.isBefore) + opened.length := by
  induction h with
  | nil => rfl
  | pair _ _ hinside hrest =>
    simp only [List.map_append, List.map_cons, List.countP_append, List.countP_cons,
      Event.isBefore_before, Event.isBefore_after, hinside, hrest, List.length_nil, Bool.not_true,
      Bool.not_false, if_true, Bool.false_eq_true, if_false]
    omega
  | left _ ih =>
    simp only [List.map_cons, List.countP_cons, Event.isBefore_before, ih, List.length_cons,
      Bool.not_true, if_true, Bool.false_eq_true, if_false]
    omega

/-! ### Levels -/

/-- How many runs the passes of a history lie in that are no part of it. -/
def Scope.outer : Scope → Nat
  | .passes => 0
  | .runs => 1

/-- Events lie no deeper than runs. -/
theorem History.level_le {ended : Bool} (h : History scope ended) (level : Nat) :
    ∀ m ∈ h.marks level, m.level + scope.outer ≤ level + h.nesting := by
  induction h generalizing level with
  | done => exact List.forall_mem_nil _
  | failed => exact List.forall_mem_nil _
  | pass p tokens inside result rest hinside hrest =>
    have hleft : inside.nesting ≤ max inside.nesting rest.nesting := Nat.le_max_left _ _
    have hright : rest.nesting ≤ max inside.nesting rest.nesting := Nat.le_max_right _ _
    have hbehind : ∀ m ∈ rest.marks level, m.level ≤ level + max inside.nesting rest.nesting :=
      fun m hm => (hrest level m hm).trans (Nat.add_le_add_left hright level)
    rw [marks, nesting, Scope.outer]
    split
    · -- what is inside lies a level deeper, and in one run at least
      have hin : ∀ m ∈ inside.marks (level + 1),
          m.level ≤ level + max inside.nesting rest.nesting := by
        intro m hm
        have hlevel : m.level + 1 ≤ level + 1 + inside.nesting := hinside (level + 1) m hm
        omega
      exact List.forall_mem_append.mpr
        ⟨List.forall_mem_cons.mpr ⟨Nat.le_add_right _ _, hin⟩,
          List.forall_mem_cons.mpr ⟨Nat.le_add_right _ _, hbehind⟩⟩
    · refine List.forall_mem_append.mpr ⟨fun m hm => ?_, hbehind⟩
      have hlevel : m.level + 1 ≤ level + inside.nesting := hinside level m hm
      omega
  | stopped p tokens inside hinside =>
    rw [marks, nesting, Scope.outer]
    split
    · refine List.forall_mem_cons.mpr ⟨Nat.le_add_right _ _, fun m hm => ?_⟩
      have hlevel : m.level + 1 ≤ level + 1 + inside.nesting := hinside (level + 1) m hm
      omega
    · intro m hm
      have hlevel : m.level + 1 ≤ level + inside.nesting := hinside level m hm
      omega
  | run group course rest hcourse hrest =>
    have hleft : 1 + course.nesting ≤ max (1 + course.nesting) rest.nesting := Nat.le_max_left _ _
    have hright : rest.nesting ≤ max (1 + course.nesting) rest.nesting := Nat.le_max_right _ _
    rw [marks, nesting, Scope.outer]
    refine List.forall_mem_append.mpr ⟨fun m hm => ?_, fun m hm => ?_⟩
    · have hlevel : m.level ≤ level + course.nesting := hcourse level m hm
      omega
    · have hlevel : m.level + 1 ≤ level + rest.nesting := hrest level m hm
      omega
  | broken group course hcourse =>
    intro m hm
    have hlevel : m.level ≤ level + course.nesting := hcourse level m hm
    show m.level + 1 ≤ level + (1 + course.nesting)
    omega

/-! ### Runs of plain arithmetic -/

namespace Pipeline

variable {l : Pipeline} {tokens : List Token} {env : Environment}

/-- A fresh tracer writes lines of the events of a run only. -/
theorem exists_mark_of_mem_lines {t : Tracer} {line : String}
    (h : line ∈ ((run t.observer l tokens).result ⟨env, {}⟩).2.noted.lines) :
    ∃ m ∈ (l.course tokens env).history.marks 0, ∃ reading, t.lineOf reading m = .ok line := by
  have hwritten : ∃ shown behind lines, (l.course tokens env).history.marks 0 = shown ++ behind ∧
      t.linesOf 0 shown = .ok lines ∧ line ∈ lines := by
    have hfollows :=
      t.follows_of_levelled ((l.course tokens env).history.bracketed 0).levelled {} rfl
    rw [History.map_event_marks] at hfollows
    rw [(tells_course t.observer l tokens env).noted_eq] at h
    cases hlines : t.linesOf 0 ((l.course tokens env).history.marks 0) with
    | ok written =>
      rw [hlines] at hfollows
      rw [hfollows] at h
      exact ⟨_, [], written, (List.append_nil _).symm, hlines, h⟩
    | error f =>
      rw [hlines] at hfollows
      obtain ⟨shown, behind, written, stopped, hsplit, hwritten, hfed, hstopped⟩ := hfollows
      rw [hfed] at h
      refine ⟨shown, behind, written, hsplit, hwritten, ?_⟩
      rwa [hstopped] at h
  obtain ⟨shown, behind, lines, hsplit, hlines, hline⟩ := hwritten
  obtain ⟨m, hm, hof⟩ := Tracer.exists_mark_of_mem_linesOf hlines hline
  refine ⟨m, ?_, hof⟩
  rw [hsplit]
  exact List.mem_append_left _ hm

/-- A run of plain arithmetic that succeeds leaves no closing parenthesis. -/
theorem closeCount_of_course {result : List Token}
    (h : (standard.course tokens env).outcome = .ok result) : closeCount result = 0 := by
  have hsilent := (result_runSilently standard tokens env).symm
  rw [runSilently, Action.result_onPart, run, result_runWithin_standard, h] at hsilent
  exact closeCount_eq_zero_iff.mpr (noClose_of_evaluateWithin (Prod.mk.inj hsilent).1.symm)

/-- The runs that groups start do not start others.  A run of plain arithmetic that succeeds starts
one for each closing parenthesis, so that an observer is told of the six passes once and once more
for each of them; and a fresh tracer indents no line by more than one level. -/
theorem standard_flat (tokens : List Token) (env : Environment) :
    let c := standard.course tokens env
    let h := c.history
    (run .recorder standard tokens).result ⟨env, []⟩ = (c.outcome, ⟨c.env, h.events⟩) ∧
      h.nesting ≤ 1 ∧
      (∀ result, c.outcome = .ok result → h.runCount = closeCount tokens ∧
        h.events.countP Event.isBefore = 6 * (1 + closeCount tokens) ∧
        h.events.countP (fun event => !event.isBefore) = 6 * (1 + closeCount tokens)) ∧
      (∀ m ∈ h.marks 0, m.level ≤ 1) ∧
      ∀ t : Tracer, ∀ line ∈ ((run t.observer standard tokens).result ⟨env, {}⟩).2.noted.lines,
        ∃ m ∈ h.marks 0, m.level ≤ 1 ∧ (∃ reading, t.lineOf reading m = .ok line) ∧
          ∃ text, line = String.join (List.replicate m.level t.indent) ++ text := by
  intro c h
  have hflat : c.Flat (closeCount tokens) := flat_courseWithin (depthFor tokens) tokens env
  have hlevel : ∀ m ∈ h.marks 0, m.level ≤ 1 := by
    intro m hm
    have hle : m.level ≤ 0 + h.nesting := h.level_le 0 m hm
    have hnesting : h.nesting ≤ 1 := hflat.nesting
    omega
  refine ⟨result_run_recorder standard tokens env [], hflat.nesting, ?counts, hlevel, ?lines⟩
  case counts =>
    intro result hresult
    have hruns : h.runCount = closeCount tokens := by
      have hspent := hflat.spends.of_ok hresult
      rwa [closeCount_of_course hresult, Nat.add_zero] at hspent
    have hbefore : h.events.countP Event.isBefore = 6 * (1 + closeCount tokens) := by
      have hbegins : c.Begins 6 6 := courseWithin_begins standard (depthFor tokens) tokens env
      have hcount : h.events.countP Event.isBefore = 6 + 6 * h.runCount := hbegins.of_ok hresult
      rw [hcount, hruns]
      omega
    have hpaired := (h.bracketed 0).countP_isBefore
    rw [h.map_event_marks, Course.begun_eq_nil hresult] at hpaired
    exact ⟨hruns, hbefore, hpaired.symm.trans hbefore⟩
  case lines =>
    intro t line hline
    obtain ⟨m, hm, reading, hof⟩ := exists_mark_of_mem_lines hline
    exact ⟨m, hm, hlevel m hm, ⟨reading, hof⟩, Tracer.indented_of_lineOf hof⟩

end Pipeline

end Calculator
