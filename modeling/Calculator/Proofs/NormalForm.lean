import Calculator.Proofs.Enclosure
import Calculator.Proofs.Writes

/-! Normal forms.  Whatever is bound to names, a run that ends in plain arithmetic leaves no digits
and no closing parentheses, and an operator only at an end of the list.  Each stage of the run does
its part: digits go when numerals are read and never come back out of groups, and the last two
passes leave no operator between others. -/

namespace Calculator

structure IsNormal (tokens : List Token) : Prop where
  noDigit : ∀ t ∈ tokens, t.isDigit = false
  noClose : Lacks ')' tokens
  /-- An operator is the first or the last token. -/
  outermost : NoneBetween (fun t => isAddition t || isScaling t) tokens

/-- Tokens that no digits are made from and that end no group. -/
def Token.isQuiet (t : Token) : Bool := !(t.isDigit || t.isChar ')')

theorem Token.isQuiet_iff {t : Token} :
    t.isQuiet = true ↔ t.isDigit = false ∧ t.isChar ')' = false := by
  simp [isQuiet]

theorem every_isQuiet_iff {tokens : List Token} :
    Every (fun t => t.isQuiet = true) tokens ↔
      (∀ t ∈ tokens, t.isDigit = false) ∧ Lacks ')' tokens := by
  simp only [Every, Token.isQuiet_iff, Lacks, forall_and]

theorem isNormal_of_reduce {tokens reduced : List Token}
    (h : Every (fun t => t.isQuiet = true) tokens) (hr : reduce tokens = .ok reduced) :
    IsNormal reduced := by
  obtain ⟨hdigit, hclose⟩ := every_isQuiet_iff.mp h
  exact ⟨isDigit_of_reduce hdigit hr, hclose.reduce hr, noneBetween_of_reduce hr⟩

/-- Groups are made of tokens without digits, and what is left of them is quiet. -/
def quietGroups : Contract where
  env := fun _ => True
  list := Every fun t => t.isQuiet = true
  group := fun _ => True
  result := fun _ => Every fun t => t.isQuiet = true
  fails := fun _ => True

theorem quiet_groupPlan {tokens : List Token} (h : ∀ t ∈ tokens, t.isDigit = false) :
    (groupPlan [] tokens).Obeys quietGroups := by
  refine obeys_groupPlan_of
    (fun output tokens => Every (fun t => t.isQuiet = true) output ∧
      ∀ t ∈ tokens, t.isDigit = false)
    ?done ?push ?unmatched ?close ⟨List.forall_mem_nil _, h⟩
  case done => exact fun h => every_reverse h.1
  case push =>
    rintro output t tokens hclose ⟨ho, h⟩
    obtain ⟨ht, hrest⟩ := List.forall_mem_cons.mp h
    exact ⟨List.forall_mem_cons.mpr ⟨Token.isQuiet_iff.mpr ⟨ht, hclose⟩, ho⟩, hrest⟩
  case unmatched => exact fun _ _ _ => trivial
  case close =>
    rintro group below paren t tokens - - - ⟨ho, h⟩
    obtain ⟨-, hbelow⟩ := List.forall_mem_append.mp ho
    refine ⟨trivial, fun result hresult => ⟨?_, (List.forall_mem_cons.mp h).2⟩⟩
    exact List.forall_mem_append.mpr
      ⟨every_reverse hresult, (List.forall_mem_cons.mp hbelow).2⟩

/-! ### Runs -/

namespace Pipeline

variable {σ : Type} {o : Observer σ} {inner : List Token → Run σ (List Token)}

/-- A list that a step gives is as `post` says; nothing is said of states and failures. -/
abbrev Gives {α : Type} (x : Run σ α) (post : α → Prop) : Prop :=
  x.Keeps (fun _ => True) post fun _ => True

theorem gives_any {α : Type} (x : Run σ α) : Gives x fun _ => True :=
  fun _ _ => ⟨trivial, meets_any _⟩

theorem gives_ofFunction (name : String) (f : List Token → Except Failure (List Token))
    (tokens : List Token) :
    Gives (applyReported o inner (.ofFunction name f) tokens) fun result =>
      f tokens = .ok result := by
  refine keeps_reported (gives_any <| Run.report o ·) fun s hs => ⟨hs, ?_⟩
  exact (meets_any (f tokens)).of_ok fun _ h => h

theorem gives_numbers (tokens : List Token) :
    Gives (runPasses o inner [.mergeDigits, .convertNumerals] tokens) fun numbers =>
      readNumbers tokens = .ok numbers := by
  rw [runPasses_cons]
  refine (gives_ofFunction _ _ tokens).bind fun merged hmerged => ?_
  obtain rfl := Except.ok.inj hmerged
  rw [runPasses_cons]
  exact (gives_ofFunction _ _ _).bind fun numbers hnumbers => Action.keeps_pure hnumbers

theorem gives_reduced (tokens : List Token) :
    Gives (runPasses o inner [.unaryMinus, .foldMultiplicative, .foldAdditive] tokens)
      fun reduced => reduce tokens = .ok reduced := by
  rw [runPasses_cons]
  refine (gives_ofFunction _ _ tokens).bind fun signed hsigned => ?_
  obtain rfl := Except.ok.inj hsigned
  rw [runPasses_cons]
  refine (gives_ofFunction _ _ _).bind fun scaled hscaled => ?_
  rw [runPasses_cons]
  refine (gives_ofFunction _ _ _).bind fun reduced hreduced => Action.keeps_pure ?_
  exact Except.bind_eq_ok_iff.mpr ⟨scaled, hscaled, hreduced⟩

/-- Plain arithmetic leaves a normal form when the runs of groups leave quiet tokens. -/
theorem gives_arithmetic
    (hinner : ∀ group, Gives (inner group) (Every fun t => t.isQuiet = true))
    (tokens : List Token) : Gives (runPasses o inner Pass.arithmetic tokens) IsNormal := by
  have hsplit : Pass.arithmetic = [.mergeDigits, .convertNumerals] ++
      (.brackets :: [.unaryMinus, .foldMultiplicative, .foldAdditive]) := rfl
  rw [hsplit, runPasses_append]
  refine (gives_numbers tokens).bind fun numbers hnumbers => ?_
  have hplan := quiet_groupPlan (isDigit_of_readNumbers hnumbers)
  have hflat : Gives (applyReported o inner .brackets numbers)
      (Every fun t => t.isQuiet = true) :=
    keeps_reported (gives_any <| Run.report o ·) (hplan.carryOut fun group _ => hinner group)
  rw [runPasses_cons]
  exact hflat.bind fun flat hquiet =>
    (gives_reduced flat).mono fun reduced hreduced => isNormal_of_reduce hquiet hreduced

/-- Whatever passes come before plain arithmetic, a run leaves a normal form. -/
theorem gives_isNormal {l : Pipeline} {front : List Pass}
    (hl : l.passes = front ++ Pass.arithmetic) (depth : Nat) (tokens : List Token) :
    Gives (runWithin o l depth tokens) IsNormal := by
  induction depth generalizing tokens with
  | zero => exact Action.keeps_throw trivial
  | succ depth ih =>
    have hinner : ∀ group, Gives (runWithin o l depth group)
        (Every fun t => t.isQuiet = true) := fun group =>
      (ih group).mono fun result h => every_isQuiet_iff.mpr ⟨h.noDigit, h.noClose⟩
    rw [runWithin, hl, runPasses_append]
    exact (gives_any _).bind fun resolved _ => gives_arithmetic hinner resolved

/-- What a run of either pipeline returns is in normal form, whatever is bound and whoever looks
on. -/
theorem isNormal_of_run {o : Observer σ} {l : Pipeline}
    (hl : l = standard ∨ l = standard.withVariables) {tokens result : List Token}
    {s : RunState σ} (h : ((run o l tokens).result s).1 = .ok result) : IsNormal result := by
  have hpasses : ∃ front, l.passes = front ++ Pass.arithmetic := by
    rcases hl with rfl | rfl
    · exact ⟨[], passes_standard⟩
    · exact ⟨_, passes_withVariables _⟩
  obtain ⟨front, hfront⟩ := hpasses
  exact (gives_isNormal hfront (depthFor tokens) tokens s trivial).2.ok h

/-- Where a name is bound to a digit, operators can be left at both ends. -/
theorem isNormal_of_run_boundDigit :
    ((run .silent standard.withVariables (tokenize "+(x1)*2-")).result
        ⟨Environment.empty.insert "x" (.char '3' none), ()⟩).1 =
      .ok [.char '+' (some 0), .number (.int 62), .char '-' (some 7)] ∧
    IsNormal [.char '+' (some 0), .number (.int 62), .char '-' (some 7)] := by
  have hrun : ((run .silent standard.withVariables (tokenize "+(x1)*2-")).result
      ⟨Environment.empty.insert "x" (.char '3' none), ()⟩).1 =
        .ok [.char '+' (some 0), .number (.int 62), .char '-' (some 7)] := by
    decide +kernel
  exact ⟨hrun, isNormal_of_run (.inr rfl) hrun⟩

end Pipeline

end Calculator
