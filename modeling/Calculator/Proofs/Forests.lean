import Calculator.Proofs.Matching

/-! Forests of groups.  Matched parentheses make a forest of some tokens.  The run over groups does
what a recursion over this forest does: the content of a group is gone through first, then the
pipeline is run on what has come of it, and the result takes the place of the group.  A closing
parenthesis without a partner ends the run behind the groups before it. -/

namespace Calculator

variable {σ : Type}

/-- Tokens with their groups.  The tokens between groups are no parentheses, except that outermost
an opening one may be left over. -/
inductive Forest : Bool → Type
  | nil {outermost : Bool} : Forest outermost
  | leaf {outermost : Bool} (t : Token) (notClose : t.isChar ')' = false)
      (leftOver : t.isChar '(' = true → outermost = true) (rest : Forest outermost) :
      Forest outermost
  | group {outermost : Bool} (opening closing : Token) (isOpen : opening.isChar '(' = true)
      (isClose : closing.isChar ')' = true) (content : Forest false) (rest : Forest outermost) :
      Forest outermost

/-- What the pipeline was run on when a parenthesis closed a group, and what came out. -/
structure GroupRun where
  closing : Token
  given : List Token
  result : List Token

def GroupRun.lists (r : GroupRun) : List Token × List Token := (r.given, r.result)

namespace Forest

variable {outermost : Bool}

def tokens : {outermost : Bool} → Forest outermost → List Token
  | _, nil => []
  | _, leaf t _ _ rest => t :: rest.tokens
  | _, group opening closing _ _ content rest =>
      opening :: (content.tokens ++ closing :: rest.tokens)

/-- The tokens without the parentheses around groups. -/
def leaves : {outermost : Bool} → Forest outermost → List Token
  | _, nil => []
  | _, leaf t _ _ rest => t :: rest.leaves
  | _, group _ _ _ _ content rest => content.leaves ++ rest.leaves

/-- The recursion over a forest, started in a state: the runs of groups in the order in which they
return, the tokens that are left, and the state after it. -/
inductive Recurses (inner : List Token → Action σ (List Token)) :
    {outermost : Bool} → Forest outermost → σ → List GroupRun → List Token → σ → Prop
  | nil {outermost : Bool} {s : σ} : Recurses inner (.nil : Forest outermost) s [] [] s
  | leaf {outermost : Bool} {t : Token} {notClose : t.isChar ')' = false}
      {leftOver : t.isChar '(' = true → outermost = true} {rest : Forest outermost} {s s' : σ}
      {runs : List GroupRun} {flat : List Token} (behind : Recurses inner rest s runs flat s') :
      Recurses inner (.leaf t notClose leftOver rest) s runs (t :: flat) s'
  | group {outermost : Bool} {opening closing : Token} {isOpen : opening.isChar '(' = true}
      {isClose : closing.isChar ')' = true} {content : Forest false} {rest : Forest outermost}
      {s s₁ s₂ s' : σ} {within runs : List GroupRun} {given result flat : List Token}
      (inside : Recurses inner content s within given s₁)
      (run : (inner given).result s₁ = (.ok result, s₂))
      (behind : Recurses inner rest s₂ runs flat s') :
      Recurses inner (.group opening closing isOpen isClose content rest) s
        (within ++ ⟨closing, given, result⟩ :: runs) (result ++ flat) s'

end Forest

/-- Carried out from a state, the plan ends with an outcome, and all runs that it asks for return:
the lists that it has had run, each with what came out. -/
inductive Plan.Completes (inner : List Token → Action σ (List Token)) :
    Plan → σ → List (List Token × List Token) → Except Failure (List Token) → σ → Prop
  | done {tokens : List Token} {s : σ} : Plan.Completes inner (.done tokens) s [] (.ok tokens) s
  | fail {e : Failure} {s : σ} : Plan.Completes inner (.fail e) s [] (.error e) s
  | run {given result : List Token} {next : List Token → Plan} {s s₁ s' : σ}
      {log : List (List Token × List Token)} {x : Except Failure (List Token)}
      (returns : (inner given).result s = (.ok result, s₁))
      (rest : Plan.Completes inner (next result) s₁ log x s') :
      Plan.Completes inner (.run given next) s ((given, result) :: log) x s'

theorem Plan.Completes.result {inner : List Token → Action σ (List Token)} {plan : Plan} {s s' : σ}
    {log : List (List Token × List Token)} {x : Except Failure (List Token)}
    (h : plan.Completes inner s log x s') : (plan.carryOut inner).result s = (x, s') := by
  induction h with
  | done => rfl
  | fail => rfl
  | run returns _ ih =>
    rw [carryOut_run, Action.result_bind, returns]
    exact ih

/-- The end of a group asks for a run on its content. -/
theorem groupPlan_close {group : List Token} (h : Lacks '(' group) {opening closing : Token}
    (isOpen : opening.isChar '(' = true) (isClose : closing.isChar ')' = true)
    (below tokens : List Token) :
    groupPlan (group ++ opening :: below) (closing :: tokens) =
      .run group.reverse fun result => groupPlan (result.reverse ++ below) tokens := by
  rw [groupPlan, if_pos isClose, openGroup?_append h isOpen]

theorem Token.isChar_close_of_open {t : Token} (h : t.isChar '(' = true) :
    t.isChar ')' = false := by
  obtain ⟨p, rfl⟩ := isChar_iff.mp h
  rfl

/-! ### Tokens of forests -/

namespace Forest

variable {outermost : Bool}

/-- Tokens are those of a forest, up to a closing parenthesis without a partner if there is one. -/
theorem exists_forest (tokens : List Token) :
    (∃ f : Forest true, f.tokens = tokens) ∨
      ∃ (f : Forest false) (t : Token) (rest : List Token), t.isChar ')' = true ∧
        f.tokens ++ t :: rest = tokens := by
  match tokens with
  | [] => exact .inl ⟨.nil, rfl⟩
  | t :: tokens =>
    rcases t.paren_cases with ht | ht | ht
    · have hopen : t.isChar ')' = false := Token.isChar_close_of_open ht
      rcases exists_forest tokens with ⟨f, rfl⟩ | ⟨f, closing, rest, hclosing, rfl⟩
      · exact .inl ⟨.leaf t hopen (fun _ => rfl) f, rfl⟩
      · -- the first parenthesis without a partner behind this one is its partner
        rcases exists_forest rest with ⟨g, rfl⟩ | ⟨g, closing', rest', hclosing', rfl⟩
        · exact .inl ⟨.group t closing ht hclosing f g, rfl⟩
        · exact .inr ⟨.group t closing ht hclosing f g, closing', rest', hclosing', by
            simp [Forest.tokens]⟩
    · exact .inr ⟨.nil, t, tokens, ht, rfl⟩
    · obtain ⟨ho, hc⟩ := Bool.or_eq_false_iff.mp ht
      rcases exists_forest tokens with ⟨f, rfl⟩ | ⟨f, closing, rest, hclosing, rfl⟩
      · exact .inl ⟨.leaf t hc (by simp [ho]) f, rfl⟩
      · exact .inr ⟨.leaf t hc (by simp [ho]) f, closing, rest, hclosing, rfl⟩
termination_by tokens.length

/-- Inside a group all parentheses match. -/
theorem unmatchedFrom_tokens_append {opened : List Token} (f : Forest outermost)
    (hf : outermost = false) (rest : List Token) :
    unmatchedFrom opened (f.tokens ++ rest) = unmatchedFrom opened rest := by
  induction f generalizing opened rest with
  | nil => rfl
  | leaf t notClose leftOver tail ih =>
    have hopen : t.isChar '(' = false := by
      rw [← Bool.not_eq_true]
      exact fun ht => absurd (leftOver ht) (by simp [hf])
    rw [tokens, List.cons_append, unmatchedFrom_of_not_isParen (by simp [Token.isParen, *]), ih hf]
  | group opening closing isOpen isClose content tail ihc iht =>
    rw [tokens, List.cons_append, List.append_assoc, List.cons_append, unmatchedFrom_open isOpen,
      ihc rfl, unmatchedFrom_close isClose, iht hf]

/-- Of the parentheses in a forest only opening ones are left over. -/
theorem noClose_unmatchedFrom {opened : List Token} (h : Lacks ')' opened) (f : Forest outermost) :
    Lacks ')' (unmatchedFrom opened f.tokens) := by
  induction f generalizing opened with
  | nil => exact h.reverse
  | leaf t notClose leftOver tail ih =>
    rw [tokens]
    by_cases ht : t.isChar '(' = true
    · rw [unmatchedFrom_open ht]
      exact ih (h.cons notClose)
    · rw [unmatchedFrom_of_not_isParen (by simp [Token.isParen, *])]
      exact ih h
  | group opening closing isOpen isClose content tail _ iht =>
    rw [tokens, unmatchedFrom_open isOpen, content.unmatchedFrom_tokens_append rfl,
      unmatchedFrom_close isClose]
    exact iht h

/-! ### Recursion over forests -/

section Recursion

variable {inner : List Token → Action σ (List Token)} {f : Forest outermost} {s s' : σ}
  {runs : List GroupRun} {flat : List Token}

/-- Every group is run once, in the order of the closing parentheses. -/
theorem Recurses.closings (h : f.Recurses inner s runs flat s') :
    runs.map GroupRun.closing = f.tokens.filter (Token.isChar ')') := by
  induction h with
  | nil => rfl
  | @leaf _ t notClose _ _ _ _ _ _ _ ih =>
    rw [tokens, List.filter_cons_of_neg (by simp [notClose]), ih]
  | @group _ opening _ isOpen isClose _ _ _ _ _ _ _ _ _ _ _ _ _ _ ihc iht =>
    rw [tokens, List.filter_cons_of_neg (by simp [Token.isChar_close_of_open isOpen]),
      List.filter_append, List.filter_cons_of_pos isClose, List.map_append, List.map_cons, ihc, iht]

/-- Within a group nothing opens another, when no run of a group leaves an opening parenthesis. -/
theorem Recurses.noOpen (h : f.Recurses inner s runs flat s') (hf : outermost = false)
    (hruns : ∀ r ∈ runs, Lacks '(' r.result) : Lacks '(' flat := by
  induction h with
  | nil => exact .nil
  | @leaf outermost t _ leftOver _ _ _ _ _ _ ih =>
    refine (ih hf hruns).cons ?_
    rw [← Bool.not_eq_true]
    exact fun ht => absurd (leftOver ht) (by simp [hf])
  | group _ _ _ _ iht =>
    obtain ⟨-, hbehind⟩ := List.forall_mem_append.mp hruns
    obtain ⟨hresult, hbehind⟩ := List.forall_mem_cons.mp hbehind
    exact Lacks.append hresult (iht hf hbehind)

/-- What a recursion does, the run over the tokens of the forest does, and it goes on from there. -/
theorem Recurses.completes (h : f.Recurses inner s runs flat s')
    (hruns : ∀ r ∈ runs, Lacks '(' r.result) {output tokens : List Token}
    {log : List (List Token × List Token)} {x : Except Failure (List Token)} {s'' : σ}
    (hrest : (groupPlan (flat.reverse ++ output) tokens).Completes inner s' log x s'') :
    (groupPlan output (f.tokens ++ tokens)).Completes inner s (runs.map GroupRun.lists ++ log) x
      s'' := by
  induction h generalizing output tokens log with
  | nil => exact hrest
  | @leaf _ t notClose _ rest _ _ _ flat _ ih =>
    rw [Forest.tokens, List.cons_append, groupPlan, if_neg (by simp [notClose])]
    refine ih hruns ?_
    rwa [List.reverse_cons, List.append_assoc] at hrest
  | @group _ opening closing isOpen isClose content rest _ _ _ _ within runs given result flat
      inside run behind ihc iht =>
    obtain ⟨hwithin, hbehind⟩ := List.forall_mem_append.mp hruns
    obtain ⟨-, hbehind⟩ := List.forall_mem_cons.mp hbehind
    have hgiven : Lacks '(' given.reverse := (inside.noOpen rfl hwithin).reverse
    rw [Forest.tokens, List.cons_append, groupPlan,
      if_neg (by simp [Token.isChar_close_of_open isOpen]), List.append_assoc, List.cons_append,
      List.map_append, List.map_cons, List.append_assoc]
    refine ihc hwithin ?_
    rw [groupPlan_close hgiven isOpen isClose, List.reverse_reverse]
    refine .run run (iht hbehind ?_)
    rwa [List.reverse_append, List.append_assoc] at hrest

/-- The run over the tokens of a forest does what the recursion does, before it goes on. -/
theorem exists_recurses (f : Forest outermost) {output tokens : List Token}
    {log : List (List Token × List Token)} {x : Except Failure (List Token)} {s'' : σ}
    (h : (groupPlan output (f.tokens ++ tokens)).Completes inner s log x s'')
    (hlog : ∀ r ∈ log, Lacks '(' r.2) :
    ∃ runs flat s' log', f.Recurses inner s runs flat s' ∧
      log = runs.map GroupRun.lists ++ log' ∧
      (groupPlan (flat.reverse ++ output) tokens).Completes inner s' log' x s'' := by
  induction f generalizing output tokens log s with
  | nil => exact ⟨[], [], s, log, .nil, rfl, h⟩
  | leaf t notClose leftOver rest ih =>
    rw [Forest.tokens, List.cons_append, groupPlan, if_neg (by simp [notClose])] at h
    obtain ⟨runs, flat, s', log', hrec, hruns, hrest⟩ := ih h hlog
    refine ⟨runs, t :: flat, s', log', .leaf hrec, hruns, ?_⟩
    rwa [List.reverse_cons, List.append_assoc]
  | group opening closing isOpen isClose content rest ihc iht =>
    rw [Forest.tokens, List.cons_append, groupPlan,
      if_neg (by simp [Token.isChar_close_of_open isOpen]), List.append_assoc,
      List.cons_append] at h
    obtain ⟨within, given, s₁, log₁, hinside, rfl, hclose⟩ := ihc h hlog
    obtain ⟨hwithin, hlog⟩ := List.forall_mem_append.mp hlog
    have hgiven : Lacks '(' given.reverse :=
      (hinside.noOpen rfl fun r hr => hwithin r.lists (List.mem_map_of_mem hr)).reverse
    rw [groupPlan_close hgiven isOpen isClose, List.reverse_reverse] at hclose
    cases hclose with
    | @run _ result _ _ s₂ _ log₂ _ returns hbehind =>
      obtain ⟨-, hlog⟩ := List.forall_mem_cons.mp hlog
      obtain ⟨runs, flat, s', log', hrec, rfl, hrest⟩ := iht hbehind hlog
      refine ⟨within ++ ⟨closing, given, result⟩ :: runs, result ++ flat, s', log',
        .group hinside returns hrec, ?_, ?_⟩
      · simp [GroupRun.lists]
      · rwa [List.reverse_append, List.append_assoc]

end Recursion

end Forest

/-! ### The pass -/

section Completes

variable {inner : List Token → Action σ (List Token)} {s s' : σ}
  {log : List (List Token × List Token)} {x : Except Failure (List Token)}

theorem completes_done_iff {tokens : List Token} :
    (Plan.done tokens).Completes inner s log x s' ↔ log = [] ∧ x = .ok tokens ∧ s' = s := by
  constructor
  · intro h
    cases h with
    | done => exact ⟨rfl, rfl, rfl⟩
  · rintro ⟨rfl, rfl, rfl⟩
    exact .done

theorem completes_fail_iff {e : Failure} :
    (Plan.fail e).Completes inner s log x s' ↔ log = [] ∧ x = .error e ∧ s' = s := by
  constructor
  · intro h
    cases h with
    | fail => exact ⟨rfl, rfl, rfl⟩
  · rintro ⟨rfl, rfl, rfl⟩
    exact .fail

end Completes

namespace Forest

variable {outermost : Bool} {f : Forest outermost}

/-- As long as the runs of groups return and leave no opening parenthesis, the pass asks for the
runs of the recursion over the forest and no others, and it ends with what `ends` makes of the
tokens that the recursion leaves. -/
structure Explains (f : Forest outermost) (inner : List Token → Run σ (List Token)) (p : Pass)
    (tokens : List Token) (s : RunState σ)
    (ends : List Token → Except Failure (List Token)) : Prop where
  completes (log : List (List Token × List Token)) (x : Except Failure (List Token))
    (s' : RunState σ) : (∀ r ∈ log, Lacks '(' r.2) →
      ((groupPlan [] tokens).Completes inner s log x s' ↔
        ∃ runs flat, f.Recurses inner s runs flat s' ∧ log = runs.map GroupRun.lists ∧
          x = ends flat)
  /-- Every group is run once, in the order of the closing parentheses. -/
  closings (runs : List GroupRun) (flat : List Token) (s' : RunState σ) :
    f.Recurses inner s runs flat s' →
      runs.map GroupRun.closing = f.tokens.filter (Token.isChar ')')
  result (log : List (List Token × List Token)) (x : Except Failure (List Token))
    (s' : RunState σ) : (groupPlan [] tokens).Completes inner s log x s' →
      (Pipeline.apply inner p tokens).result s = (x, s')

/-- A forest explains the pass when nothing is run behind it. -/
theorem explains_append {inner : List Token → Run σ (List Token)} {p : Pass}
    (hp : p.body = Pass.brackets.body) {rest : List Token} (s : RunState σ)
    {ends : List Token → Except Failure (List Token)}
    (hends : ∀ flat, (outermost = false → Lacks '(' flat) → ∀ s log x s',
      (groupPlan (flat.reverse ++ []) rest).Completes inner s log x s' ↔
        log = [] ∧ x = ends flat ∧ s' = s) :
    f.Explains inner p (f.tokens ++ rest) s ends := by
  refine ⟨fun log x s' hlog => ⟨fun h => ?_, ?_⟩, fun _ _ _ h => h.closings, fun _ _ _ h => ?_⟩
  · obtain ⟨runs, flat, s₁, log', hrec, rfl, hrest⟩ := f.exists_recurses h hlog
    have hruns : ∀ r ∈ runs, Lacks '(' r.result := fun r hr =>
      hlog r.lists (List.mem_append_left _ (List.mem_map_of_mem hr))
    obtain ⟨rfl, rfl, rfl⟩ := (hends flat (fun hf => hrec.noOpen hf hruns) _ _ _ _).mp hrest
    exact ⟨runs, flat, hrec, List.append_nil _, rfl⟩
  · rintro ⟨runs, flat, hrec, rfl, rfl⟩
    have hruns : ∀ r ∈ runs, Lacks '(' r.result := fun r hr =>
      hlog r.lists (List.mem_map_of_mem hr)
    have hrest := (hends flat (fun hf => hrec.noOpen hf hruns) s' [] _ s').mpr ⟨rfl, rfl, rfl⟩
    have hcompletes := hrec.completes hruns hrest
    rwa [List.append_nil] at hcompletes
  · have happly : Pipeline.apply inner p (f.tokens ++ rest) =
        (groupPlan [] (f.tokens ++ rest)).carryOut inner := by
      rw [Pipeline.apply, hp]
      rfl
    rw [happly]
    exact h.result

theorem explains_tokens {inner : List Token → Run σ (List Token)} {p : Pass}
    (hp : p.body = Pass.brackets.body) (f : Forest true) (s : RunState σ) :
    f.Explains inner p f.tokens s .ok := by
  have h : f.Explains inner p (f.tokens ++ []) s .ok := f.explains_append hp s fun flat _ => by
    intro s log x s'
    rw [groupPlan, completes_done_iff, List.append_nil, List.reverse_reverse]
  rwa [List.append_nil] at h

/-- Behind a forest without open parentheses one that closes a group has no partner. -/
theorem explains_unmatched {inner : List Token → Run σ (List Token)} {p : Pass}
    (hp : p.body = Pass.brackets.body) (f : Forest false) (s : RunState σ) {t : Token}
    (ht : t.isChar ')' = true) (rest : List Token) :
    f.Explains inner p (f.tokens ++ t :: rest) s fun _ => .error (.at .unmatchedClose t) := by
  refine f.explains_append hp s fun flat hflat s log x s' => ?_
  have hopen : openGroup? (flat.reverse ++ []) = none := by
    rw [List.append_nil]
    exact openGroup?_eq_none_iff.mpr (hflat rfl).reverse
  rw [groupPlan, if_pos ht, hopen, completes_fail_iff]

end Forest

/-! ### The pipeline of this pass alone -/

theorem groupPlan_of_noClose {tokens : List Token} (h : Lacks ')' tokens) (output : List Token) :
    groupPlan output tokens = .done (output.reverse ++ tokens) := by
  induction tokens generalizing output with
  | nil => rw [groupPlan, List.append_nil]
  | cons t tokens ih =>
    obtain ⟨ht, h⟩ := List.forall_mem_cons.mp h
    rw [groupPlan, if_neg (by simp [ht]), ih h, List.reverse_cons, List.append_assoc]
    rfl

theorem Pipeline.result_runWithin_brackets (depth : Nat) (tokens : List Token)
    (s : RunState Unit) :
    (runWithin .silent ⟨[.brackets]⟩ (depth + 1) tokens).result s =
      ((groupPlan [] tokens).carryOut (runWithin .silent ⟨[.brackets]⟩ depth)).result s := by
  have happly : apply (runWithin .silent ⟨[.brackets]⟩ depth) Pass.brackets tokens =
      (groupPlan [] tokens).carryOut (runWithin .silent ⟨[.brackets]⟩ depth) := rfl
  rw [runWithin, result_runPasses_cons, happly]
  rcases ((groupPlan [] tokens).carryOut (runWithin .silent ⟨[.brackets]⟩ depth)).result s with
    ⟨_ | _, _⟩ <;> rfl

namespace Forest

variable {outermost : Bool}

theorem noClose_leaves (f : Forest outermost) : Lacks ')' f.leaves := by
  induction f with
  | nil => exact .nil
  | leaf t notClose _ _ ih => exact ih.cons notClose
  | group _ _ _ _ _ _ ihc iht => exact ihc.append iht

/-- The recursion whose runs change nothing leaves the leaves. -/
theorem exists_recurses_leaves {inner : List Token → Action σ (List Token)} {s : σ}
    (hinner : ∀ tokens, Lacks ')' tokens → (inner tokens).result s = (.ok tokens, s))
    (f : Forest outermost) :
    ∃ runs, f.Recurses inner s runs f.leaves s ∧ ∀ r ∈ runs, Lacks '(' r.result := by
  induction f with
  | nil => exact ⟨[], .nil, List.forall_mem_nil _⟩
  | leaf t _ _ _ ih =>
    obtain ⟨runs, hrec, hruns⟩ := ih
    exact ⟨runs, .leaf hrec, hruns⟩
  | group opening closing _ _ content rest ihc iht =>
    obtain ⟨within, hinside, hwithin⟩ := ihc
    obtain ⟨runs, hbehind, hruns⟩ := iht
    refine ⟨within ++ ⟨closing, content.leaves, content.leaves⟩ :: runs,
      .group hinside (hinner _ content.noClose_leaves) hbehind, ?_⟩
    exact List.forall_mem_append.mpr
      ⟨hwithin, List.forall_mem_cons.mpr ⟨hinside.noOpen rfl hwithin, hruns⟩⟩

/-- Where a forest explains the pass, its pipeline ends with the leaves or the failure. -/
theorem result_runSilently_brackets {f : Forest outermost} {tokens : List Token}
    {ends : List Token → Except Failure (List Token)}
    (h : ∀ (inner : List Token → Run Unit (List Token)) s,
      f.Explains inner .brackets tokens s ends) (env : Environment) :
    (Pipeline.runSilently ⟨[.brackets]⟩ tokens).result env = (ends f.leaves, env) := by
  let depth := tokens.length + 248
  let inner := Pipeline.runWithin .silent ⟨[.brackets]⟩ (depth + 1)
  have hinner : ∀ group, Lacks ')' group → ∀ s, (inner group).result s = (.ok group, s) := by
    intro group hgroup s
    rw [Pipeline.result_runWithin_brackets, groupPlan_of_noClose hgroup]
    rfl
  obtain ⟨runs, hrec, hruns⟩ :=
    f.exists_recurses_leaves fun group hg => hinner group hg ⟨env, ()⟩
  have hlog : ∀ r ∈ runs.map GroupRun.lists, Lacks '(' r.2 := by
    intro r hr
    obtain ⟨q, hq, rfl⟩ := List.mem_map.mp hr
    exact hruns q hq
  have hcompletes := ((h inner ⟨env, ()⟩).completes _ _ _ hlog).mpr ⟨runs, _, hrec, rfl, rfl⟩
  have hrun : (Pipeline.run .silent ⟨[.brackets]⟩ tokens).result ⟨env, ()⟩ =
      ((groupPlan [] tokens).carryOut inner).result ⟨env, ()⟩ :=
    Pipeline.result_runWithin_brackets (depth + 1) tokens ⟨env, ()⟩
  rw [Pipeline.runSilently, Action.result_onPart, hrun, hcompletes.result]

end Forest

/-- The pass over groups is the recursion over the forest of the tokens, up to the first closing
parenthesis without a partner, where it fails; and the pipeline of this pass alone takes off the
parentheses that match. -/
theorem Pipeline.brackets_recursion (o : Observer σ) (l : Pipeline) (depth : Nat) {p : Pass}
    (hp : p.body = Pass.brackets.body) (tokens : List Token) (s : RunState σ) :
    match (unmatched tokens).find? (Token.isChar ')') with
    | none => ∃ f : Forest true, f.tokens = tokens ∧
        f.Explains (runWithin o l depth) p tokens s .ok ∧
        (runSilently ⟨[.brackets]⟩ tokens).result s.env = (.ok f.leaves, s.env)
    | some t => ∃ (f : Forest false) (rest : List Token), f.tokens ++ t :: rest = tokens ∧
        f.Explains (runWithin o l depth) p tokens s (fun _ => .error (.at .unmatchedClose t)) ∧
        (runSilently ⟨[.brackets]⟩ tokens).result s.env =
          (.error (.at .unmatchedClose t), s.env) := by
  rcases Forest.exists_forest tokens with ⟨f, rfl⟩ | ⟨f, t, rest, ht, rfl⟩
  · have hfind : (unmatched f.tokens).find? (Token.isChar ')') = none :=
      List.find?_eq_none.mpr fun t ht => by simp [f.noClose_unmatchedFrom .nil t ht]
    rw [hfind]
    exact ⟨f, rfl, f.explains_tokens hp s,
      Forest.result_runSilently_brackets (fun _ s => f.explains_tokens rfl s) s.env⟩
  · have hfind : (unmatched (f.tokens ++ t :: rest)).find? (Token.isChar ')') = some t := by
      rw [unmatched, f.unmatchedFrom_tokens_append rfl, unmatchedFrom_nil_close ht,
        List.find?_cons_of_pos ht]
    rw [hfind]
    exact ⟨f, rest, rfl, f.explains_unmatched hp s ht rest,
      Forest.result_runSilently_brackets (fun _ s => f.explains_unmatched rfl s ht rest) s.env⟩

/-- `2*(1+(3-1))` as numbers and signs. -/
def nestedGroups : List Token :=
  [.number (.int 2), .sign '*', .sign '(', .number (.int 1), .sign '+', .sign '(',
    .number (.int 3), .sign '-', .number (.int 1), .sign ')', .sign ')']

/-- In plain arithmetic the inner group of `2*(1+(3-1))` is run first, and its result is part of
what the outer one is run on. -/
theorem Pipeline.brackets_recursion_nestedGroups :
    Pass.brackets.body = Pass.brackets.body ∧
      ∃ (f : Forest true) (runs : List GroupRun), f.tokens = nestedGroups ∧
        f.Recurses (runWithin .silent .standard 9) ⟨.empty, ()⟩ runs
          [.number (.int 2), .sign '*', .number (.int 3)] ⟨.empty, ()⟩ ∧
        runs.map GroupRun.lists =
          [([.number (.int 3), .sign '-', .number (.int 1)], [.number (.int 2)]),
            ([.number (.int 1), .sign '+', .number (.int 2)], [.number (.int 3)])] := by
  have h := brackets_recursion .silent .standard 9 (p := .brackets) rfl nestedGroups ⟨.empty, ()⟩
  have hfind : (unmatched nestedGroups).find? (Token.isChar ')') = none := by decide
  rw [hfind] at h
  obtain ⟨f, htokens, hexplains, -⟩ := h
  have hinner : (runWithin .silent .standard 9
      [.number (.int 3), .sign '-', .number (.int 1)]).result ⟨.empty, ()⟩ =
        (.ok [.number (.int 2)], ⟨.empty, ()⟩) := by
    rw [result_runWithin_standard]
    exact congrArg (·, _) (by decide +kernel)
  have houter : (runWithin .silent .standard 9
      [.number (.int 1), .sign '+', .number (.int 2)]).result ⟨.empty, ()⟩ =
        (.ok [.number (.int 3)], ⟨.empty, ()⟩) := by
    rw [result_runWithin_standard]
    exact congrArg (·, _) (by decide +kernel)
  have hopen : ∀ n, Lacks '(' [.number n] := fun _ => .single rfl
  obtain ⟨runs, flat, hrec, hlog, hflat⟩ := (hexplains.completes _ _ _
    (by simp [hopen])).mp (.run hinner (.run houter .done))
  obtain rfl := Except.ok.inj hflat
  exact ⟨rfl, f, runs, htokens, hrec, hlog.symm⟩

end Calculator
