import Calculator.Proofs.Inheritance

/-! How deep runs nest.  No pass makes a list longer, and a group that the pipeline is run on is
shorter than the list it is in by its two parentheses at least.  So runs of the pipeline lie inside
each other at most half as often as the list is long, and none is stopped for its depth. -/

namespace Calculator

variable {σ : Type} {n : Nat}

/-- A list does not get longer, and what is run of it is shorter by two. -/
def shrinking (n : Nat) : Contract where
  env := fun _ => True
  list := fun tokens => tokens.length ≤ n
  group := fun tokens => tokens.length + 2 ≤ n
  result := fun tokens result => result.length ≤ tokens.length
  fails := fun f => f ≠ .nestedTooDeep

/-- No step of a pass fails for its depth. -/
theorem inherited_shallow : Inherited (fun _ => True) (fun f => f ≠ .nestedTooDeep) where
  number := fun _ => trivial
  joined := fun _ _ _ _ => trivial
  unreadable := nofun
  blamed := nofun
  empty := nofun
  overflow := nofun
  unwritable := nofun

/-! ### Arithmetic -/

theorem length_mergeDigits_le (tokens : List Token) :
    (mergeDigits tokens).length ≤ tokens.length := by
  have hjoin : ∀ output t, (joinDigits output t).length ≤ output.length + 1 := by
    intro output t
    cases output with
    | nil => simp [joinDigits]
    | cons last output =>
      simp only [joinDigits]
      split <;> simp
  have hfold : ∀ output, (tokens.foldl joinDigits output).length ≤
      output.length + tokens.length := by
    induction tokens with
    | nil => simp
    | cons t tokens ih =>
      intro output
      have hrest := ih (joinDigits output t)
      have hstep := hjoin output t
      rw [List.foldl_cons, List.length_cons]
      omega
  have h := hfold []
  rw [mergeDigits, List.length_reverse]
  simpa using h

theorem length_of_convertNumerals {tokens numbers : List Token}
    (h : convertNumerals tokens = .ok numbers) : numbers.length = tokens.length := by
  induction tokens generalizing numbers with
  | nil =>
    obtain rfl := Except.ok.inj h
    rfl
  | cons t tokens ih =>
    rw [convertNumerals_cons] at h
    obtain ⟨u, -, h⟩ := Except.bind_eq_ok_iff.mp h
    obtain ⟨rest, hrest, h⟩ := Except.bind_eq_ok_iff.mp h
    obtain rfl := Except.ok.inj h
    rw [List.length_cons, List.length_cons, ih hrest]

theorem length_le_of_foldFrom {isSign : Token → Bool}
    {operation : Number → Token → Number → Except Failure Number} {left : Token}
    {tokens folded : List Token} (h : foldFrom isSign operation left tokens = .ok folded) :
    folded.length ≤ tokens.length + 1 := by
  induction left, tokens using foldFrom.induct isSign generalizing folded with
  | case1 left =>
    obtain rfl := Except.ok.inj h
    simp
  | case2 left t =>
    obtain rfl := Except.ok.inj h
    simp
  | case3 left t right rest ht ih =>
    rw [foldFrom_cons_of_sign operation ht] at h
    obtain ⟨m, -, h⟩ := Except.bind_eq_ok_iff.mp h
    have hrest := ih m h
    rw [List.length_cons, List.length_cons]
    omega
  | case4 left t right rest ht ih =>
    rw [foldFrom_cons_of_not_sign operation (by simpa using ht)] at h
    obtain ⟨folded', hfolded, h⟩ := Except.bind_eq_ok_iff.mp h
    obtain rfl := Except.ok.inj h
    have hrest := ih hfolded
    simp only [List.length_cons] at hrest ⊢
    omega

theorem length_le_of_fold {isSign : Token → Bool}
    {operation : Number → Token → Number → Except Failure Number} {tokens folded : List Token}
    (h : fold isSign operation tokens = .ok folded) : folded.length ≤ tokens.length := by
  cases tokens with
  | nil =>
    obtain rfl := Except.ok.inj h
    exact Nat.le_refl 0
  | cons t tokens => exact length_le_of_foldFrom h

theorem shrinks_groupPlan {tokens : List Token} (h : tokens.length ≤ n) :
    (groupPlan [] tokens).Obeys (shrinking n) := by
  let inv : List Token → List Token → Prop := fun output tokens =>
    output.length + tokens.length ≤ n
  have hstart : inv [] tokens := by simpa [inv] using h
  refine obeys_groupPlan_of inv ?done ?push ?unmatched ?close hstart
  case done => exact fun h => by simpa [inv, shrinking] using h
  case push =>
    intro output t tokens _ h
    simp only [inv, List.length_cons] at h ⊢
    omega
  case unmatched => exact fun _ _ _ => nofun
  case close =>
    intro group below paren t tokens _ _ _ h
    simp only [inv, List.length_append, List.length_cons] at h
    constructor
    · show group.reverse.length + 2 ≤ n
      rw [List.length_reverse]
      omega
    · intro result hresult
      have hresult : result.length ≤ group.reverse.length := hresult
      rw [List.length_reverse] at hresult
      simp only [inv, List.length_append, List.length_reverse]
      omega

theorem shrinks_arithmetic (n : Nat) : ∀ p ∈ Pass.arithmetic, p.Obeys (shrinking n) := by
  have hany : ∀ tokens : List Token, Every (fun _ => True) tokens := fun _ _ _ => trivial
  intro p hp
  simp only [Pass.arithmetic, List.mem_cons, List.not_mem_nil, or_false] at hp
  rcases hp with rfl | rfl | rfl | rfl | rfl | rfl
  · exact Pass.obeys_ofFunction fun tokens h => Nat.le_trans (length_mergeDigits_le tokens) h
  · refine Pass.obeys_ofFunction fun tokens h => ?_
    refine (inherited_shallow.convertNumerals (hany tokens)).of_ok fun numbers hn => ?_
    exact Nat.le_trans (Nat.le_of_eq (length_of_convertNumerals hn)) h
  · exact fun tokens h => shrinks_groupPlan h
  · exact Pass.obeys_ofFunction fun tokens h => Nat.le_trans (length_signsFrom_le false tokens) h
  · refine Pass.obeys_ofFunction fun tokens h => ?_
    refine (inherited_shallow.foldProducts (hany tokens)).of_ok fun folded hf => ?_
    rw [foldProducts_eq_fold] at hf
    exact Nat.le_trans (length_le_of_fold hf) h
  · refine Pass.obeys_ofFunction fun tokens h => ?_
    refine (inherited_shallow.foldSums (hany tokens)).of_ok fun folded hf => ?_
    rw [foldSums_eq_fold] at hf
    exact Nat.le_trans (length_le_of_fold hf) h

/-! ### Variables -/

theorem shrinks_scanOnto {tests : List (Token → Bool)} {combine : List Token → Edit (List Token)}
    (hc : ∀ window, window.length = tests.length → (combine window).Keeps (fun _ => True)
      (fun result => result.length ≤ tests.length) fun f => f ≠ .nestedTooDeep)
    {output tokens : List Token} (h : output.length + tokens.length ≤ n) :
    (Window.scanOnto tests combine output tokens).Keeps (fun _ => True)
      (fun result => result.length ≤ n) fun f => f ≠ .nestedTooDeep := by
  refine Window.keeps_scanOnto_of (fun output tokens => output.length + tokens.length ≤ n)
    ?done ?push ?replace h
  case done => exact fun h => by simpa using h
  case push =>
    intro output t tokens _ h
    rw [List.length_cons] at h ⊢
    omega
  case replace =>
    intro window base output t tokens hwindow hfits h
    have hlength := Window.length_eq_of_fits hfits
    have houtput := congrArg List.length hwindow
    rw [List.length_append, List.length_reverse, List.length_cons] at houtput
    rw [List.length_cons] at h
    refine (hc window hlength).mono fun result hresult => ?_
    rw [List.length_append, List.length_reverse]
    omega

theorem shrinks_assignmentWindow {window : List Token} (h : window.length = 6) :
    (assignmentWindow window).Keeps (fun _ => True) (fun result => result.length ≤ 6)
      fun f => f ≠ .nestedTooDeep := by
  have hany : Every (fun _ => True) window := fun _ _ => trivial
  have hshallow : (assignmentWindow window).Keeps (Environment.Binds fun _ => True)
      (Every fun _ => True) fun f => f ≠ .nestedTooDeep :=
    keeps_assignmentWindow (fun _ _ _ h => by cases h) nofun hany
  intro env _
  refine ⟨trivial, (hshallow env fun _ _ _ => trivial).2.of_ok fun result hresult => ?_⟩
  match window with
  | [_, _, name, _, value, _] =>
    have hassign : ((assign name value).result env).1 = .ok result := hresult
    rw [assign] at hassign
    cases hname : name.name? with
    | none =>
      rw [hname] at hassign
      simp only [Action.result_bind, Action.result_ofExcept] at hassign
      cases hw : name.written with
      | error f =>
        rw [hw] at hassign
        cases hassign
      | ok text =>
        rw [hw] at hassign
        cases hassign
    | some key =>
      rw [hname] at hassign
      obtain rfl := Except.ok.inj hassign
      simp

theorem shrinks_withVariables (n : Nat) :
    ∀ p ∈ Pipeline.standard.withVariables.passes, p.Obeys (shrinking n) := by
  intro p hp
  rw [Pipeline.passes_withVariables] at hp
  simp only [List.cons_append, List.nil_append, List.mem_cons] at hp
  rcases hp with rfl | rfl | rfl | hp
  · intro tokens h
    have hlength : ([] : List Token).length + tokens.length ≤ n := by simpa [shrinking] using h
    let tests := keywordPattern.map Window.Place.test
    have hwindow : ∀ window, window.length = tests.length → (keywordWindow window).Keeps
        (fun _ => True) (fun result => result.length ≤ tests.length) fun f => f ≠ .nestedTooDeep :=
      fun _ _ => Action.keeps_pure (by decide)
    exact shrinks_scanOnto hwindow hlength
  · intro tokens h
    have hlength : ([] : List Token).length + tokens.length ≤ n := by simpa [shrinking] using h
    exact shrinks_scanOnto (fun _ hwindow => shrinks_assignmentWindow hwindow) hlength
  · intro tokens h env _
    exact ⟨trivial, Nat.le_trans (Nat.le_of_eq (List.length_map env.resolve)) h⟩
  · exact shrinks_arithmetic n p hp

theorem Settings.shrinks_pipeline (settings : Settings) (n : Nat) :
    ∀ p ∈ settings.pipeline.passes, p.Obeys (shrinking n) := by
  rw [Settings.pipeline]
  split
  · exact shrinks_withVariables n
  · exact shrinks_arithmetic n

/-! ### Runs -/

section Runs

variable {o : Observer σ} {l : Pipeline} {fails : Failure → Prop}
  (hfails : ∀ f, f ≠ .nestedTooDeep → fails f)
  (hp : ∀ n, ∀ p ∈ l.passes, p.Obeys (shrinking n))
  (ho : ∀ event noted, Meets (fun _ => True) fails ((o.notice event).result noted).1)
include hfails hp ho

/-- A run gives a list that is not longer than its own, and it is not stopped for its depth when it
may nest half as deep as the list is long. -/
theorem Pipeline.shrinks_runWithin {depth : Nat} {tokens : List Token}
    (h : tokens.length < 2 * depth) :
    (runWithin o l depth tokens).Keeps (fun _ => True)
      (fun result => result.length ≤ tokens.length) fails := by
  induction depth generalizing tokens with
  | zero => omega
  | succ depth ih =>
    let c : Contract := { shrinking tokens.length with fails }
    have hinner : ∀ group, c.group group → (runWithin o l depth group).Keeps (fun s => c.env s.env)
        (c.result group) c.fails := by
      intro group hgroup
      have hgroup : group.length + 2 ≤ tokens.length := hgroup
      exact ih (by omega)
    have hpasses : ∀ p ∈ l.passes, p.Obeys c :=
      fun p hmem => (hp tokens.length p hmem).weaken hfails
    have hlist : c.list tokens := Nat.le_refl tokens.length
    exact keeps_runPasses hinner ho hpasses hlist

/-- Passes run alike with two ways to run the groups of a list that agree on shorter lists. -/
theorem Pipeline.runPasses_runWithin {depth : Nat} {tokens : List Token}
    (h : tokens.length < 2 * (depth + 1)) {inner : List Token → Run σ (List Token)}
    (hagree : ∀ group, group.length + 2 ≤ tokens.length → runWithin o l depth group = inner group) :
    runPasses o (runWithin o l depth) l.passes tokens = runPasses o inner l.passes tokens := by
  let c : Contract := { shrinking tokens.length with fails }
  have hinner : ∀ group, c.group group → (runWithin o l depth group).Keeps (fun s => c.env s.env)
      (c.result group) c.fails := by
    intro group hgroup
    have hgroup : group.length + 2 ≤ tokens.length := hgroup
    exact shrinks_runWithin hfails hp ho (by omega)
  have hpasses : ∀ p ∈ l.passes, p.Obeys c :=
    fun p hmem => (hp tokens.length p hmem).weaken hfails
  have hlist : c.list tokens := Nat.le_refl tokens.length
  exact runPasses_congr hinner ho (fun _ => trivial) hagree hpasses hlist

/-- Runs that may nest deep enough do not depend on how deep they may nest. -/
theorem Pipeline.runWithin_eq_of_lt {depth depth' : Nat} {tokens : List Token}
    (h : tokens.length < 2 * depth) (h' : tokens.length < 2 * depth') :
    runWithin o l depth tokens = runWithin o l depth' tokens := by
  induction depth generalizing depth' tokens with
  | zero => omega
  | succ depth ih =>
    cases depth' with
    | zero => omega
    | succ depth' =>
      show runPasses o (runWithin o l depth) l.passes tokens = runPasses o _ l.passes tokens
      exact runPasses_runWithin hfails hp ho h fun group _ => ih (by omega) (by omega)

theorem Pipeline.run_eq_runWithin {depth : Nat} {tokens : List Token}
    (h : tokens.length < 2 * depth) : run o l tokens = runWithin o l depth tokens := by
  have hdepth : tokens.length < 2 * depthFor tokens := by
    rw [depthFor_unlimited]
    omega
  exact runWithin_eq_of_lt hfails hp ho hdepth h

/-- A run is its passes, whose groups are runs again: no bound on the depth is left in it. -/
theorem Pipeline.run_eq_runPasses (tokens : List Token) :
    run o l tokens = runPasses o (run o l) l.passes tokens := by
  show runPasses o (runWithin o l (tokens.length + 249)) l.passes tokens = _
  exact runPasses_runWithin hfails hp ho (by omega)
    fun group _ => (run_eq_runWithin hfails hp ho (by omega)).symm

/-- A group that is run is shorter by its two parentheses. -/
theorem Pipeline.length_group_le {given group : List Token} {s : RunState σ}
    (hr : (groupPlan [] given).Runs (run o l) s group) : group.length + 2 ≤ given.length := by
  let c : Contract := { shrinking given.length with fails }
  have hinner : ∀ group, c.group group → (run o l group).Keeps (fun s => c.env s.env)
      (c.result group) c.fails := by
    intro group _
    have hrun : run o l group = runWithin o l (group.length + 1) group :=
      run_eq_runWithin hfails hp ho (by omega)
    rw [hrun]
    exact shrinks_runWithin hfails hp ho (by omega)
  have hplan : (groupPlan [] given).Obeys c :=
    (shrinks_groupPlan (Nat.le_refl given.length)).weaken hfails
  exact hplan.group_of_runs hinner trivial hr

end Runs

/-- Every run ends.  It is its passes one after the other, with runs of the same pipeline on groups
that are shorter by two; so it is reached with runs that nest half as deep as its list is long.  It
is stopped for its depth only by an observer that fails so. -/
theorem Settings.run_terminates (settings : Settings) (o : Observer σ) (tokens : List Token)
    (s : RunState σ) :
    let run := settings.pipeline.run o
    run tokens = Pipeline.runPasses o run settings.pipeline.passes tokens ∧
    run tokens = Pipeline.runWithin o settings.pipeline (tokens.length / 2 + 1) tokens ∧
    Meets (fun result => result.length ≤ tokens.length)
      (fun f => f = .nestedTooDeep → ∃ event noted, ((o.notice event).result noted).1 = .error f)
      ((run tokens).result s).1 ∧
    ∀ given state group, (groupPlan [] given).Runs run state group →
      group.length + 2 ≤ given.length := by
  intro run
  let fails : Failure → Prop := fun f =>
    f = .nestedTooDeep → ∃ event noted, ((o.notice event).result noted).1 = .error f
  have hfails : ∀ f, f ≠ .nestedTooDeep → fails f := fun _ hf h => absurd h hf
  have ho : ∀ event noted, Meets (fun _ => True) fails ((o.notice event).result noted).1 := by
    intro event noted
    cases hnotice : ((o.notice event).result noted).1 with
    | ok _ => trivial
    | error f => exact fun _ => ⟨event, noted, hnotice⟩
  have hp := settings.shrinks_pipeline
  have hhalf : run tokens = Pipeline.runWithin o settings.pipeline (tokens.length / 2 + 1) tokens :=
    Pipeline.run_eq_runWithin hfails hp ho (by omega)
  refine ⟨Pipeline.run_eq_runPasses hfails hp ho tokens, hhalf, ?_, ?_⟩
  · rw [hhalf]
    exact (Pipeline.shrinks_runWithin hfails hp ho (by omega) s trivial).2
  · exact fun _ _ _ hr => Pipeline.length_group_le hfails hp ho hr

end Calculator
