import Calculator.Pipeline

/-! Histories of runs.  A history says which passes a run has gone through, which runs of the
pipeline they have started, and where it was if it was stopped.  It is the same whoever looks on: an
observer is told of the traceable passes in it, one after the other, and the run ends as it does
unobserved unless the observer stops it. -/

namespace Calculator

/-- What a history is about: the passes of a run, or the runs that one pass starts. -/
inductive Scope where
  | passes
  | runs

/-- What has been done, to the end or to where it was stopped. -/
inductive History : Scope → Bool → Type
  | done {scope : Scope} : History scope true
  | failed {scope : Scope} : History scope false
  /-- A pass is over, and what comes after it. -/
  | pass {ended : Bool} (p : Pass) (tokens : List Token) (inside : History .runs true)
      (result : List Token) (rest : History .passes ended) : History .passes ended
  /-- A pass is still active. -/
  | stopped (p : Pass) (tokens : List Token) (inside : History .runs false) : History .passes false
  /-- A run is over, and what comes after it. -/
  | run {ended : Bool} (group : List Token) (course : History .passes true)
      (rest : History .runs ended) : History .runs ended
  /-- A run is still going on. -/
  | broken (group : List Token) (course : History .passes false) : History .runs false

/-- A call of a pass: what it was given, the events of the runs that it has started, and what it has
given if it is over. -/
structure Call where
  pass : Pass
  tokens : List Token
  within : List Event
  result : Option (List Token)

/-- The events of a call: those within it, and the reports around them if the pass is reported. -/
def Call.events (c : Call) : List Event :=
  if c.pass.traceable then
    .before c.pass.name c.tokens :: c.within ++ c.result.toList.map (.after c.pass.name c.tokens)
  else c.within

/-- The event reports the call. -/
def Call.Reports (c : Call) (event : Event) : Prop :=
  c.pass.traceable = true ∧ (event = .before c.pass.name c.tokens ∨
    ∃ result, c.result = some result ∧ event = .after c.pass.name c.tokens result)

namespace History

variable {scope : Scope} {ended : Bool}

def events : {scope : Scope} → {ended : Bool} → History scope ended → List Event
  | _, _, .done => []
  | _, _, .failed => []
  | _, _, .pass p tokens inside result rest =>
      Call.events ⟨p, tokens, inside.events, some result⟩ ++ rest.events
  | _, _, .stopped p tokens inside => Call.events ⟨p, tokens, inside.events, none⟩
  | _, _, .run _ course rest => course.events ++ rest.events
  | _, _, .broken _ course => course.events

/-- All calls of passes, in the order in which they began. -/
def calls : {scope : Scope} → {ended : Bool} → History scope ended → List Call
  | _, _, .done => []
  | _, _, .failed => []
  | _, _, .pass p tokens inside result rest =>
      ⟨p, tokens, inside.events, some result⟩ :: inside.calls ++ rest.calls
  | _, _, .stopped p tokens inside => ⟨p, tokens, inside.events, none⟩ :: inside.calls
  | _, _, .run _ course rest => course.calls ++ rest.calls
  | _, _, .broken _ course => course.calls

/-- The calls that are not over, the outermost first. -/
def active (h : History scope ended) : List Call := h.calls.filter fun c => c.result.isNone

/-- How many runs have been started. -/
def runCount : {scope : Scope} → {ended : Bool} → History scope ended → Nat
  | _, _, .done => 0
  | _, _, .failed => 0
  | _, _, .pass _ _ inside _ rest => inside.runCount + rest.runCount
  | _, _, .stopped _ _ inside => inside.runCount
  | _, _, .run _ course rest => 1 + course.runCount + rest.runCount
  | _, _, .broken _ course => 1 + course.runCount

/-- How deep the runs that have been started lie inside each other. -/
def nesting : {scope : Scope} → {ended : Bool} → History scope ended → Nat
  | _, _, .done => 0
  | _, _, .failed => 0
  | _, _, .pass _ _ inside _ rest => max inside.nesting rest.nesting
  | _, _, .stopped _ _ inside => inside.nesting
  | _, _, .run _ course rest => max (1 + course.nesting) rest.nesting
  | _, _, .broken _ course => 1 + course.nesting

theorem nesting_le_runCount (h : History scope ended) : h.nesting ≤ h.runCount := by
  induction h with
  | done => exact Nat.le_refl 0
  | failed => exact Nat.le_refl 0
  | pass p tokens inside result rest hinside hrest =>
    rw [nesting, runCount]
    omega
  | stopped p tokens inside hinside => exact hinside
  | run group course rest hcourse hrest =>
    rw [nesting, runCount]
    omega
  | broken group course hcourse =>
    rw [nesting, runCount]
    omega

section Active

variable (p : Pass) (tokens result : List Token)

theorem active_pass (inside : History .runs true) (rest : History .passes ended) :
    (pass p tokens inside result rest).active = inside.active ++ rest.active := by
  rw [active, calls, List.filter_append, List.filter_cons_of_neg (by simp), ← active, ← active]

theorem active_run (course : History .passes true) (rest : History .runs ended) :
    (run tokens course rest).active = course.active ++ rest.active := by
  rw [active, calls, List.filter_append, ← active, ← active]

theorem active_stopped (inside : History .runs false) :
    (stopped p tokens inside).active = ⟨p, tokens, inside.events, none⟩ :: inside.active := by
  rw [active, calls, List.filter_cons_of_pos rfl, ← active]

end Active

/-- Nothing is active any more at the end. -/
theorem active_eq_nil {h : History scope ended} (hended : ended = true) : h.active = [] := by
  induction h with
  | done => rfl
  | failed => cases hended
  | pass p tokens inside result rest hinside hrest =>
    rw [active_pass, hinside rfl, hrest hended, List.append_nil]
  | stopped p tokens inside _ => cases hended
  | run group course rest hcourse hrest =>
    rw [active_run, hcourse rfl, hrest hended, List.append_nil]
  | broken group course _ => cases hended

/-- The events of a call stand side by side. -/
theorem infix_of_mem_calls {h : History scope ended} {c : Call} (hc : c ∈ h.calls) :
    c.events <:+: h.events := by
  have hwithin : ∀ {p : Pass} {tokens : List Token} {within : List Event}
      {result : Option (List Token)}, c.events <:+: within →
        c.events <:+: Call.events ⟨p, tokens, within, result⟩ := by
    intro p tokens within result hinside
    rw [Call.events.eq_def ⟨p, tokens, within, result⟩]
    split
    · exact hinside.trans ((List.infix_cons (List.infix_refl within)).trans
        (List.prefix_append _ _).isInfix)
    · exact hinside
  induction h with
  | done => cases hc
  | failed => cases hc
  | pass p tokens inside result rest hinside hrest =>
    rw [events]
    rcases List.mem_append.mp hc with hc | hc
    · refine List.IsInfix.trans ?_ (List.prefix_append _ _).isInfix
      rcases List.mem_cons.mp hc with rfl | hc
      · exact List.infix_refl _
      · exact hwithin (hinside hc)
    · exact (hrest hc).trans (List.suffix_append _ _).isInfix
  | stopped p tokens inside hinside =>
    rcases List.mem_cons.mp hc with rfl | hc
    · exact List.infix_refl _
    · exact hwithin (hinside hc)
  | run group course rest hcourse hrest =>
    rcases List.mem_append.mp hc with hc | hc
    · exact (hcourse hc).trans (List.prefix_append _ _).isInfix
    · exact (hrest hc).trans (List.suffix_append _ _).isInfix
  | broken group course hcourse => exact hcourse hc

/-- Every event reports a call of a pass that is reported. -/
theorem exists_call_of_mem_events {h : History scope ended} {event : Event}
    (he : event ∈ h.events) :
    ∃ c ∈ h.calls, c.Reports event := by
  have hcall : ∀ {c : Call}, event ∈ c.events → event ∈ c.within ∨ c.Reports event := by
    intro c he
    rw [Call.events] at he
    split at he
    · rename_i ht
      rcases List.mem_append.mp he with he | he
      · rcases List.mem_cons.mp he with rfl | he
        · exact .inr ⟨ht, .inl rfl⟩
        · exact .inl he
      · obtain ⟨result, hresult, rfl⟩ := List.mem_map.mp he
        exact .inr ⟨ht, .inr ⟨result, Option.mem_toList.mp hresult, rfl⟩⟩
    · exact .inl he
  induction h with
  | done => cases he
  | failed => cases he
  | pass p tokens inside result rest hinside hrest =>
    rcases List.mem_append.mp he with he | he
    · rcases hcall he with he | hself
      · obtain ⟨c, hc, hreports⟩ := hinside he
        exact ⟨c, List.mem_append_left _ (List.mem_cons_of_mem _ hc), hreports⟩
      · exact ⟨_, List.mem_append_left _ List.mem_cons_self, hself⟩
    · obtain ⟨c, hc, hreports⟩ := hrest he
      exact ⟨c, List.mem_append_right _ hc, hreports⟩
  | stopped p tokens inside hinside =>
    rcases hcall he with he | hself
    · obtain ⟨c, hc, hreports⟩ := hinside he
      exact ⟨c, List.mem_cons_of_mem _ hc, hreports⟩
    · exact ⟨_, List.mem_cons_self, hself⟩
  | run group course rest hcourse hrest =>
    rcases List.mem_append.mp he with he | he
    · obtain ⟨c, hc, hreports⟩ := hcourse he
      exact ⟨c, List.mem_append_left _ hc, hreports⟩
    · obtain ⟨c, hc, hreports⟩ := hrest he
      exact ⟨c, List.mem_append_right _ hc, hreports⟩
  | broken group course hcourse => exact hcourse he

end History

/-- How a run goes: what it comes to, what it leaves bound, and its history. -/
inductive Course (scope : Scope) where
  | ended (result : List Token) (env : Environment) (history : History scope true)
  | stopped (failure : Failure) (env : Environment) (history : History scope false)

namespace Course

variable {scope scope' : Scope}

def outcome : Course scope → Except Failure (List Token)
  | .ended result _ _ => .ok result
  | .stopped failure _ _ => .error failure

def env : Course scope → Environment
  | .ended _ env _ => env
  | .stopped _ env _ => env

def hasEnded : Course scope → Bool
  | .ended _ _ _ => true
  | .stopped _ _ _ => false

def history : (c : Course scope) → History scope c.hasEnded
  | .ended _ _ history => history
  | .stopped _ _ history => history

/-- The course of an edit, in which nothing is run. -/
def ofEdit : Except Failure (List Token) × Environment → Course scope
  | (.ok result, env) => .ended result env .done
  | (.error e, env) => .stopped e env .failed

/-- The same course with more in its history. -/
def extend (f : {ended : Bool} → History scope ended → History scope' ended) :
    Course scope → Course scope'
  | .ended result env history => .ended result env (f history)
  | .stopped failure env history => .stopped failure env (f history)

variable (f : {ended : Bool} → History scope ended → History scope' ended) (c : Course scope)

@[simp] theorem outcome_extend : (c.extend f).outcome = c.outcome := by
  cases c <;> rfl

@[simp] theorem env_extend : (c.extend f).env = c.env := by
  cases c <;> rfl

/-- What is computed from a history can be computed before or after it is extended. -/
theorem history_extend {α : Type} (g : {ended : Bool} → History scope' ended → α) :
    g (c.extend f).history = g (f c.history) := by
  cases c <;> rfl

end Course

/-! ### Courses of runs -/

def Plan.course (inner : List Token → Environment → Course .passes) :
    Plan → Environment → Course .runs
  | .done tokens, env => .ended tokens env .done
  | .fail e, env => .stopped e env .failed
  | .run group next, env =>
      match inner group env with
      | .ended result env history => ((next result).course inner env).extend (.run group history)
      | .stopped e env history => .stopped e env (.broken group history)

def Pass.course (inner : List Token → Environment → Course .passes) (p : Pass)
    (tokens : List Token) (env : Environment) : Course .runs :=
  match p.body with
  | .edit f => .ofEdit ((f tokens).result env)
  | .nested plan => (plan tokens).course inner env

namespace Pipeline

def coursePasses (inner : List Token → Environment → Course .passes) :
    List Pass → List Token → Environment → Course .passes
  | [], tokens, env => .ended tokens env .done
  | p :: passes, tokens, env =>
      match p.course inner tokens env with
      | .ended result env inside =>
          (coursePasses inner passes result env).extend (.pass p tokens inside result)
      | .stopped e env inside => .stopped e env (.stopped p tokens inside)

def courseWithin (l : Pipeline) : Nat → List Token → Environment → Course .passes
  | 0, _, env => .stopped .nestedTooDeep env .failed
  | depth + 1, tokens, env => coursePasses (l.courseWithin depth) l.passes tokens env

/-- How a run of a pipeline goes. -/
def course (l : Pipeline) (tokens : List Token) (env : Environment) : Course .passes :=
  l.courseWithin (depthFor tokens) tokens env

end Pipeline

/-- What holds of all courses of passes: `within` holds of the runs that they start, and `motive` is
kept as the runs come one after the other. -/
theorem Pass.course_induct {inner : List Token → Environment → Course .passes}
    (within : Course .passes → Prop) (motive : Course .runs → Prop)
    (hinner : ∀ group env, within (inner group env)) (edit : ∀ r, motive (.ofEdit r))
    (run : ∀ {group result env history c}, within (.ended result env history) → motive c →
      motive (c.extend (.run group history)))
    (broken : ∀ {group failure env history}, within (.stopped failure env history) →
      motive (.stopped failure env (.broken group history)))
    (p : Pass) (tokens : List Token) (env : Environment) : motive (p.course inner tokens env) := by
  obtain ⟨name, traceable, body⟩ := p
  cases body with
  | edit f => exact edit ((f tokens).result env)
  | nested plan =>
    show motive ((plan tokens).course inner env)
    generalize plan tokens = plan
    induction plan generalizing env with
    | done tokens => exact edit (.ok tokens, env)
    | fail e => exact edit (.error e, env)
    | run group next ih =>
      have hgroup := hinner group env
      rw [Plan.course]
      cases hc : inner group env with
      | ended result env' history => exact run (hc ▸ hgroup) (ih result env')
      | stopped e env' history => exact broken (hc ▸ hgroup)

/-! ### Observers of a course -/

variable {σ α β : Type} {o : Observer σ}

/-- Takes notice of some events, one after the other. -/
def Observer.feed (o : Observer σ) (events : List Event) : Action σ Unit := forM events o.notice

@[simp] theorem Observer.feed_nil (noted : σ) : (o.feed []).result noted = (.ok (), noted) := rfl

theorem Observer.feed_cons (event : Event) (events : List Event) (noted : σ) :
    (o.feed (event :: events)).result noted =
      match (o.notice event).result noted with
      | (.ok _, noted) => (o.feed events).result noted
      | (.error f, noted) => (.error f, noted) := by
  rw [feed, List.forM_cons, Action.result_bind]
  rcases (o.notice event).result noted with ⟨_ | _, _⟩ <;> rfl

theorem Observer.feed_append (first second : List Event) (noted : σ) :
    (o.feed (first ++ second)).result noted =
      match (o.feed first).result noted with
      | (.ok _, noted) => (o.feed second).result noted
      | (.error f, noted) => (.error f, noted) := by
  rw [feed, List.forM_append, Action.result_bind, ← feed]
  rcases (o.feed first).result noted with ⟨_ | _, _⟩ <;> rfl

/-- From `env` an action takes notice of some events and ends with an outcome and an environment,
unless the observer stops it at one of the events. -/
def Run.Tells (x : Run σ α) (o : Observer σ) (env : Environment) (events : List Event)
    (outcome : Except Failure α) (env' : Environment) : Prop :=
  ∀ noted, ∃ last, x.result ⟨env, noted⟩ =
    match (o.feed events).result noted with
    | (.ok _, noted) => (outcome, ⟨env', noted⟩)
    | (.error f, noted) => (.error f, ⟨last, noted⟩)

namespace Run.Tells

variable {env env' env'' : Environment} {events events' : List Event} {x : Run σ α}
  {f : α → Run σ β}

theorem pure (a : α) : Tells (Pure.pure a) o env [] (.ok a) env := fun _ => ⟨env, rfl⟩

theorem throw (e : Failure) : Tells (MonadExcept.throw e : Run σ α) o env [] (.error e) env :=
  fun _ => ⟨env, rfl⟩

theorem edit (y : Edit α) :
    (Run.edit y : Run σ α).Tells o env [] (y.result env).1 (y.result env).2 := fun _ => ⟨env, rfl⟩

theorem report (event : Event) : (Run.report o event).Tells o env [event] (.ok ()) env := by
  intro noted
  refine ⟨env, ?_⟩
  rw [Run.result_report, Observer.feed_cons]
  rcases (o.notice event).result noted with ⟨_ | ⟨⟩, noted'⟩ <;> rfl

theorem bind {a : α} {outcome : Except Failure β} (h : x.Tells o env events (.ok a) env')
    (hf : (f a).Tells o env' events' outcome env'') :
    (x >>= f).Tells o env (events ++ events') outcome env'' := by
  intro noted
  obtain ⟨last, hx⟩ := h noted
  rw [Action.result_bind, hx, Observer.feed_append]
  rcases (o.feed events).result noted with ⟨e | _, noted'⟩
  · exact ⟨last, rfl⟩
  · exact hf noted'

theorem stop {e : Failure} (h : x.Tells o env events (.error e) env') :
    (x >>= f).Tells o env events (.error e) env' := by
  intro noted
  obtain ⟨last, hx⟩ := h noted
  refine ⟨last, ?_⟩
  rw [Action.result_bind, hx]
  rcases (o.feed events).result noted with ⟨_ | _, noted'⟩ <;> rfl

/-- An action ends as it does unobserved when its observer takes notice of all events. -/
theorem result_of_feed {outcome : Except Failure α} {noted noted' : σ}
    (h : x.Tells o env events outcome env')
    (hfeed : (o.feed events).result noted = (.ok (), noted')) :
    x.result ⟨env, noted⟩ = (outcome, ⟨env', noted'⟩) := by
  obtain ⟨last, hx⟩ := h noted
  rw [hx, hfeed]

/-- What an observer knows after an action is what the events have told it. -/
theorem noted_eq {outcome : Except Failure α} (h : x.Tells o env events outcome env') (noted : σ) :
    (x.result ⟨env, noted⟩).2.noted = ((o.feed events).result noted).2 := by
  obtain ⟨last, hx⟩ := h noted
  rw [hx]
  rcases (o.feed events).result noted with ⟨_ | _, _⟩ <;> rfl

end Run.Tells

/-- An action goes as the course says. -/
def Course.Describes {scope : Scope} (c : Course scope) (o : Observer σ)
    (x : Run σ (List Token)) (env : Environment) : Prop :=
  x.Tells o env c.history.events c.outcome c.env

section Describing

variable {inner : List Token → Run σ (List Token)}
  {course : List Token → Environment → Course .passes}
  (hinner : ∀ group env, (course group env).Describes o (inner group) env)
include hinner

theorem Plan.course_describes (plan : Plan) (env : Environment) :
    (plan.course course env).Describes o (plan.carryOut inner) env := by
  induction plan generalizing env with
  | done tokens => exact .pure tokens
  | fail e => exact .throw e
  | run group next ih =>
    have hgroup := hinner group env
    show Run.Tells (inner group >>= fun result => (next result).carryOut inner) o env _ _ _
    rw [Plan.course]
    cases hc : course group env with
    | ended result env' history =>
      rw [hc] at hgroup
      simp only [Course.outcome_extend, Course.env_extend,
        Course.history_extend _ _ History.events, History.events]
      exact hgroup.bind (ih result env')
    | stopped e env' history =>
      rw [hc] at hgroup
      exact hgroup.stop

theorem Pass.course_describes (p : Pass) (tokens : List Token) (env : Environment) :
    (p.course course tokens env).Describes o (Pipeline.apply inner p tokens) env := by
  obtain ⟨name, traceable, body⟩ := p
  cases body with
  | edit f =>
    have hcourse : Pass.course course ⟨name, traceable, .edit f⟩ tokens env =
      .ofEdit ((f tokens).result env) := rfl
    have hedit : (Run.edit (f tokens)).Tells o env [] _ _ := .edit (f tokens)
    rw [hcourse]
    rcases hf : (f tokens).result env with ⟨e | result, env'⟩ <;> rw [hf] at hedit <;> exact hedit
  | nested plan => exact Plan.course_describes hinner (plan tokens) env

namespace Pipeline

theorem coursePasses_describes (passes : List Pass) (tokens : List Token) (env : Environment) :
    (coursePasses course passes tokens env).Describes o (runPasses o inner passes tokens) env := by
  induction passes generalizing tokens env with
  | nil => exact .pure tokens
  | cons p passes ih =>
    have hpass := p.course_describes hinner tokens env
    rw [runPasses_cons, coursePasses]
    cases hc : p.course course tokens env with
    | ended result env' inside =>
      rw [hc] at hpass
      rw [Course.Describes, Course.outcome_extend, Course.env_extend,
        Course.history_extend _ _ History.events, History.events]
      refine Run.Tells.bind ?_ (ih result env')
      rw [applyReported, Call.events]
      split
      · refine (Run.Tells.report (.before p.name tokens)).bind (hpass.bind ?_)
        exact (Run.Tells.report (.after p.name tokens result)).bind (.pure result)
      · exact hpass
    | stopped e env' inside =>
      rw [hc] at hpass
      refine Run.Tells.stop ?_
      show Run.Tells _ o env (Call.events ⟨p, tokens, inside.events, none⟩) _ _
      rw [applyReported, Call.events]
      split
      · rw [Option.toList_none, List.map_nil, List.append_nil]
        exact (Run.Tells.report (.before p.name tokens)).bind hpass.stop
      · exact hpass

omit hinner in
theorem courseWithin_describes (l : Pipeline) (depth : Nat) (tokens : List Token)
    (env : Environment) :
    (l.courseWithin depth tokens env).Describes o (runWithin o l depth tokens) env := by
  induction depth generalizing tokens env with
  | zero => exact .throw _
  | succ depth ih => exact coursePasses_describes ih l.passes tokens env

omit hinner in
/-- A run goes as its course says under any observer: the observer is told of the events in order,
and the run ends as it does unobserved unless one of them makes the observer fail. -/
theorem tells_course (o : Observer σ) (l : Pipeline) (tokens : List Token) (env : Environment) :
    (run o l tokens).Tells o env (l.course tokens env).history.events (l.course tokens env).outcome
      (l.course tokens env).env :=
  courseWithin_describes l (depthFor tokens) tokens env

end Pipeline

end Describing

section Observing

variable (l : Pipeline) (tokens : List Token) (env : Environment)

theorem Observer.feed_recorder (events noted : List Event) :
    (Observer.recorder.feed events).result noted = (.ok (), noted ++ events) := by
  induction events generalizing noted with
  | nil => rw [feed_nil, List.append_nil]
  | cons event events ih =>
    rw [feed_cons, result_recorder]
    simp only [ih, List.append_assoc, List.singleton_append]

namespace Pipeline

/-- What is recorded of a run are the events of its course. -/
theorem result_run_recorder (noted : List Event) :
    (run .recorder l tokens).result ⟨env, noted⟩ =
      ((l.course tokens env).outcome,
        ⟨(l.course tokens env).env, noted ++ (l.course tokens env).history.events⟩) := by
  exact (tells_course .recorder l tokens env).result_of_feed (Observer.feed_recorder _ noted)

theorem result_runSilently :
    (l.runSilently tokens).result env =
      ((l.course tokens env).outcome, (l.course tokens env).env) := by
  have hfeed : ∀ events, (Observer.silent.feed events).result () = (.ok (), ()) := by
    intro events
    induction events with
    | nil => rfl
    | cons event events ih =>
      rw [Observer.feed_cons, Observer.result_silent]
      exact ih
  rw [runSilently, Action.result_onPart,
    (tells_course .silent l tokens env).result_of_feed (hfeed _)]

end Pipeline

end Observing

/-! ### The passes of a history -/

/-- All calls are of some given passes. -/
def History.IsOf {scope : Scope} {ended : Bool} (passes : List Pass) (h : History scope ended) :
    Prop :=
  ∀ c ∈ h.calls, c.pass ∈ passes

section Passes

variable {passes : List Pass} {course : List Token → Environment → Course .passes}
  (hcourse : ∀ group env, (course group env).history.IsOf passes)
include hcourse

theorem Pass.course_isOf (p : Pass) (tokens : List Token) (env : Environment) :
    (p.course course tokens env).history.IsOf passes := by
  refine p.course_induct (fun c => c.history.IsOf passes) (fun c => c.history.IsOf passes) hcourse
    ?edit ?run (fun hgroup => hgroup) tokens env
  case edit => rintro ⟨_ | _, _⟩ <;> exact List.forall_mem_nil _
  case run =>
    intro group result env history c hgroup hrest
    rw [Course.history_extend _ _ (History.IsOf passes)]
    exact List.forall_mem_append.mpr ⟨hgroup, hrest⟩

theorem Pipeline.coursePasses_isOf {some : List Pass} (hsome : ∀ p ∈ some, p ∈ passes)
    (tokens : List Token) (env : Environment) :
    (coursePasses course some tokens env).history.IsOf passes := by
  induction some generalizing tokens env with
  | nil => exact List.forall_mem_nil _
  | cons p some ih =>
    obtain ⟨hp, hrest⟩ := List.forall_mem_cons.mp hsome
    have hpass := p.course_isOf hcourse tokens env
    rw [coursePasses]
    cases hc : p.course course tokens env with
    | ended result env' inside =>
      rw [hc] at hpass
      rw [Course.history_extend _ _ (History.IsOf passes)]
      exact List.forall_mem_cons.mpr ⟨hp, List.forall_mem_append.mpr ⟨hpass, ih hrest result env'⟩⟩
    | stopped e env' inside =>
      rw [hc] at hpass
      exact List.forall_mem_cons.mpr ⟨hp, hpass⟩

end Passes

/-- A run goes through passes of its pipeline only. -/
theorem Pipeline.courseWithin_isOf (l : Pipeline) (depth : Nat) (tokens : List Token)
    (env : Environment) : (l.courseWithin depth tokens env).history.IsOf l.passes := by
  induction depth generalizing tokens env with
  | zero => exact List.forall_mem_nil _
  | succ depth ih => exact coursePasses_isOf ih (fun _ h => h) tokens env

end Calculator
