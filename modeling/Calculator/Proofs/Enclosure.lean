import Calculator.Proofs.Lines
import Calculator.Proofs.Nesting
import Calculator.Proofs.Parentheses
import Calculator.Proofs.Residue

/-! Parentheses taken off a whole line.  Inside them the line is run as it is without them, and what
this run leaves is run once more.  Where no assignment and no name gets another meaning by this, the
second run finds the residue of a reduction: a value, or a minus before one, which it applies. -/

namespace Calculator

/-! ### Digits -/

theorem isDigit_of_readNumbers {tokens numbers : List Token}
    (h : readNumbers tokens = .ok numbers) : ∀ t ∈ numbers, t.isDigit = false := by
  have hread : ∀ tokens numbers, convertNumerals tokens = .ok numbers →
      ∀ t ∈ numbers, t.isDigit = false := by
    intro tokens
    induction tokens with
    | nil =>
      intro numbers hn
      obtain rfl := Except.ok.inj hn
      exact fun _ ht => absurd ht List.not_mem_nil
    | cons t tokens ih =>
      intro numbers hn
      rw [convertNumerals_cons] at hn
      obtain ⟨u, hu, hn⟩ := Except.bind_eq_ok_iff.mp hn
      obtain ⟨rest, hrest, hn⟩ := Except.bind_eq_ok_iff.mp hn
      obtain rfl := Except.ok.inj hn
      refine List.forall_mem_cons.mpr ⟨?_, ih rest hrest⟩
      rw [readDigits] at hu
      split at hu
      · rename_i hnone
        rw [← Except.ok.inj hu, Token.isDigit, hnone]
        rfl
      · split at hu
        · rw [← Except.ok.inj hu]
          rfl
        · cases hu
  exact hread _ _ h

theorem GroupTrace.every {good : Token → Prop} {inner : List Token → Except Failure (List Token)}
    (hinner : ∀ group result, inner group = .ok result → Every good result)
    {output tokens flat : List Token} (h : GroupTrace inner output tokens flat)
    (ho : Every good output) (ht : Every good tokens) : Every good flat := by
  induction h with
  | done output => exact every_reverse ho
  | push _ _ ih =>
    obtain ⟨hfirst, ht⟩ := List.forall_mem_cons.mp ht
    exact ih (List.forall_mem_cons.mpr ⟨hfirst, ho⟩) ht
  | close _ _ _ run _ ih =>
    obtain ⟨-, hbelow⟩ := List.forall_mem_append.mp ho
    have hresult := hinner _ _ run
    exact ih (List.forall_mem_append.mpr
      ⟨every_reverse hresult, (List.forall_mem_cons.mp hbelow).2⟩) (List.forall_mem_cons.mp ht).2

theorem isDigit_of_reduce {tokens reduced : List Token} (h : ∀ t ∈ tokens, t.isDigit = false)
    (hr : reduce tokens = .ok reduced) : ∀ t ∈ reduced, t.isDigit = false := by
  intro t ht
  rcases mem_of_mem_reduce hr ht with ht | hnumber
  · exact h t ht
  · cases t <;> simp_all [Token.isNumber]

/-- A run leaves no digits. -/
theorem isDigit_of_evaluateWithin {prepare : List Token → List Token} {depth : Nat}
    {tokens result : List Token} (h : evaluateWithin prepare depth tokens = .ok result) :
    ∀ t ∈ result, t.isDigit = false := by
  induction depth generalizing tokens result with
  | zero => cases h
  | succ depth ih =>
    obtain ⟨numbers, hnumbers, h⟩ := Except.bind_eq_ok_iff.mp h
    obtain ⟨flat, hflat, h⟩ := Except.bind_eq_ok_iff.mp h
    exact isDigit_of_reduce ((groupTrace_of_carryOut hflat).every (fun _ _ hr => ih hr)
      (List.forall_mem_nil _) (isDigit_of_readNumbers hnumbers)) h

/-! ### Settled tokens -/

/-- What is done to settled tokens before plain arithmetic opens and closes no groups, and changes
nothing where it leaves no name; it changes no plain tokens. -/
structure Spares (prepare : List Token → List Token) (settled : Token → Prop) : Prop where
  plain : KeepsPlain prepare
  noName {t : Token} : t.isName = false → settled t
  inner {tokens : List Token} : Every (Inner settled) tokens →
    Every (Inner settled) (prepare tokens)
  same {tokens : List Token} : Every settled tokens → (∀ t ∈ prepare tokens, t.isName = false) →
    prepare tokens = tokens

theorem spares_id : Spares id fun _ => True where
  plain := keepsPlain_id
  noName _ := trivial
  inner h := h
  same _ _ := rfl

/-- Names are spared that are bound to nothing, or to themselves. -/
theorem spares_resolveNames {env : Environment}
    (hk : env.resolve (.symbol setKeyword) = .symbol setKeyword) :
    Spares (resolveNames env) fun t => env.resolve t = t := by
  have hkeywords : ∀ tokens, (∀ t ∈ tokens, env.resolve t = t) →
      resolveNames env tokens = keywords tokens := by
    intro tokens h
    have hresolve : ∀ t ∈ keywords tokens, env.resolve t = t := by
      intro t ht
      rcases mem_of_mem_keywords ht with ht | rfl
      · exact h t ht
      · exact hk
    exact (List.map_congr_left hresolve).trans (List.map_id _)
  refine ⟨keepsPlain_resolveNames env, fun ht => Environment.resolve_of_not_isName ht,
    fun {tokens} h => ?_, fun {tokens} h hnames => ?_⟩
  · rw [hkeywords tokens fun t ht => (h t ht).1]
    intro t ht
    rcases mem_of_mem_keywords ht with ht | rfl
    · exact h t ht
    · exact ⟨hk, rfl, rfl⟩
  · rw [hkeywords tokens h] at hnames ⊢
    exact keywords_eq_self fun hmem => absurd (hnames _ hmem) (by simp)

namespace Spares

variable {prepare : List Token → List Token} {settled : Token → Prop} (H : Spares prepare settled)
include H

theorem readNumbers {tokens numbers : List Token} (h : Every settled tokens)
    (hn : readNumbers tokens = .ok numbers) : Every settled numbers := by
  have hinherited := inherited_of_made (fun n => H.noName (t := .number n) rfl)
    fun digits => H.noName (t := .numeral digits) rfl
  exact (hinherited.readNumbers h).ok hn

/-- A list without groups has a run without runs inside it. -/
theorem evaluateWithin_inner {group : List Token} (h : Every (Inner settled) group) (depth : Nat) :
    evaluateWithin prepare (depth + 1) group = (do
      let numbers ← Calculator.readNumbers (prepare group)
      reduce numbers) := by
  rw [evaluateWithin, arithmetic]
  cases hnumbers : Calculator.readNumbers (prepare group) with
  | error f => rfl
  | ok numbers =>
    have hinner :=
      ((inherited_inner_of fun _ ht => H.noName ht).readNumbers (H.inner h)).ok hnumbers
    have hclose : Lacks ')' numbers := fun t ht => (hinner t ht).2.2
    rw [Except.ok_bind, Except.ok_bind, groups_of_noClose hclose]
    rfl

theorem meets_evaluateWithin {group : List Token} (h : Every (Inner settled) group)
    (depth : Nat) :
    Meets (Every (Inner settled)) (fun _ => True) (evaluateWithin prepare depth group) :=
  (inherited_inner_of fun _ ht => H.noName ht).evaluateWithin trivial
    (fun _ ht => H.inner ht) depth h

section Groups

variable {numbers : List Token} (hs : Every settled numbers) (hb : Balanced (parens numbers))
include hs hb

theorem inner_of_groups {depth : Nat} {flat : List Token}
    (h : (groupPlan [] numbers).carryOut (evaluateWithin prepare depth) = .ok flat) :
    Every (Inner settled) flat := by
  have hmeets : ∀ group, Every (Inner settled) group →
      Meets (Every (Inner settled)) (fun _ => True) (evaluateWithin prepare depth group) :=
    fun group hg => H.meets_evaluateWithin hg depth
  have htrace := groupTrace_of_carryOut h
  obtain ⟨hevery, hnoClose⟩ := every_groups hmeets htrace (List.forall_mem_nil _) .nil hs
  obtain ⟨hcount, -⟩ := openCount_groups hmeets htrace (List.forall_mem_nil _) .nil hs
  have hnoOpen : Lacks '(' flat := by
    rw [hb.total] at hcount
    exact openCount_eq_zero_iff.mp (Int.ofNat.inj hcount)
  exact every_inner hevery hnoOpen hnoClose

/-- The groups inside parentheses have the runs that they have without them, and what these leave is
the group of the parentheses. -/
theorem groups_enclosed (depth depth' : Nat) :
    (groupPlan [] (.sign '(' :: (numbers ++ [.sign ')']))).carryOut
        (evaluateWithin prepare (depth' + 1)) = (do
      let flat ← (groupPlan [] numbers).carryOut (evaluateWithin prepare (depth + 1))
      evaluateWithin prepare (depth' + 1) flat) := by
  have hinner : ∀ group, Every (Inner settled) group →
      evaluateWithin prepare (depth' + 1) group = evaluateWithin prepare (depth + 1) group ∧
        Meets (Every (Inner settled)) (fun _ => True) (evaluateWithin prepare (depth + 1) group) :=
    fun group hg => ⟨by rw [H.evaluateWithin_inner hg, H.evaluateWithin_inner hg],
      H.meets_evaluateWithin hg (depth + 1)⟩
  have hbelow := groups_below hinner (List.forall_mem_nil _) .nil hs
    (balanced_iff_closesAtMost.mp hb).2 [.sign '('] [.sign ')']
  rw [List.nil_append] at hbelow
  rw [groups_char (by decide), hbelow]
  cases hflat : (groupPlan [] numbers).carryOut (evaluateWithin prepare (depth + 1)) with
  | error f => rfl
  | ok flat =>
    have hnoOpen : Lacks '(' flat := fun t ht => (H.inner_of_groups hs hb hflat t ht).2.1
    rw [Except.ok_bind, Except.ok_bind, groups_close hnoOpen.reverse rfl rfl, List.reverse_reverse]
    cases evaluateWithin prepare (depth' + 1) flat with
    | error f => rfl
    | ok result =>
      rw [Except.ok_bind, List.append_nil]
      exact congrArg Except.ok (List.reverse_reverse result)

end Groups

/-- Names survive a reduction, so that there are none where it gives a number. -/
theorem same_of_reduce {tokens numbers reduced : List Token} {n : Number}
    (h : Every settled tokens) (hn : Calculator.readNumbers (prepare tokens) = .ok numbers)
    (hr : reduce numbers = .ok reduced) (hv : reduce reduced = .ok [.number n]) :
    prepare tokens = tokens := by
  refine H.same h fun t ht => ?_
  rw [← Bool.not_eq_true]
  intro hname
  -- a name is neither a digit nor an operator, so that it would be left beside the number
  have hdigit : t.isDigit = false := by
    rw [← Bool.not_eq_true]
    intro hd
    rw [Token.isName_eq_false_of_isDigit hd] at hname
    cases hname
  have hplain : t.isPlain = false := by
    rw [← Bool.not_eq_true]
    intro hp
    rw [Token.isName, Token.name?_of_isPlain hp] at hname
    cases hname
  have hmem := mem_readNumbers hdigit hplain ht hn
  have hresult := mem_reduce hplain (mem_reduce hplain hmem hr) hv
  obtain rfl := List.mem_singleton.mp hresult
  cases hname

/-- A line in parentheses that comes to a number is reduced twice to it. -/
theorem exists_reduced {tokens : List Token} (hs : Every settled tokens)
    (hb : Balanced (parens tokens)) (depth : Nat) {depth' : Nat} {n : Number}
    (h : arithmetic (evaluateWithin prepare (depth' + 1)) (.sign '(' :: (tokens ++ [.sign ')'])) =
      .ok [.number n]) :
    ∃ flat reduced, reduce flat = .ok reduced ∧
      arithmetic (evaluateWithin prepare (depth + 1)) tokens = .ok reduced ∧
      reduce reduced = .ok [.number n] := by
  obtain ⟨enclosed, henclosed, h⟩ := Except.bind_eq_ok_iff.mp h
  rw [readNumbers_parenthesized] at henclosed
  obtain ⟨numbers, hnumbers, henclosed⟩ := Except.bind_eq_ok_iff.mp henclosed
  obtain rfl := Except.ok.inj henclosed
  obtain ⟨reduced, hgroups, hvalue⟩ := Except.bind_eq_ok_iff.mp h
  have hsettled := H.readNumbers hs hnumbers
  have hbalanced : Balanced (parens numbers) := by rwa [parens_readNumbers hnumbers]
  rw [H.groups_enclosed hsettled hbalanced depth] at hgroups
  obtain ⟨flat, hflat, hrun⟩ := Except.bind_eq_ok_iff.mp hgroups
  have hinner := H.inner_of_groups hsettled hbalanced hflat
  rw [H.evaluateWithin_inner hinner] at hrun
  obtain ⟨again, hagain, hreduced⟩ := Except.bind_eq_ok_iff.mp hrun
  -- the second run finds neither names nor digits
  have hsame := H.same_of_reduce (fun t ht => (hinner t ht).1) hagain hreduced hvalue
  have hdigits : ∀ t ∈ flat, t.isDigit = false :=
    (groupTrace_of_carryOut hflat).every (fun _ _ hr => isDigit_of_evaluateWithin hr)
      (List.forall_mem_nil _) (isDigit_of_readNumbers hnumbers)
  rw [hsame, readNumbers_of_not_isDigit hdigits] at hagain
  obtain rfl := Except.ok.inj hagain
  refine ⟨flat, reduced, hreduced, ?_, hvalue⟩
  rw [arithmetic, hnumbers, Except.ok_bind, hflat, Except.ok_bind, hreduced]

end Spares

/-! ### Lines -/

/-- Once the assignments of a line have left some tokens and an environment, nothing gets another
meaning when the line is run in parentheses. -/
structure Settled (env : Environment) (assigned : List Token) : Prop where
  /-- The parentheses match once names are resolved. -/
  balanced : Balanced (parens (assigned.map env.resolve))
  /-- A closing parenthesis behind the tokens completes no assignment. -/
  closed : completesAssignment assigned.reverse = false
  /-- Resolved names and the keyword are not bound to other tokens. -/
  resolved : ∀ t ∈ .symbol setKeyword :: assigned.map env.resolve,
    (env.resolve t).withoutOffset = t.withoutOffset

theorem completesAssignment_withoutOffsets (output : List Token) :
    completesAssignment (withoutOffsets output) = completesAssignment output := by
  have hwindow : ((.sign ')' :: withoutOffsets output).take assignmentPattern.length).reverse =
      withoutOffsets ((.sign ')' :: output).take assignmentPattern.length).reverse := by
    rw [withoutOffsets_reverse, withoutOffsets, withoutOffsets, List.map_take, List.map_cons]
    rfl
  rw [completesAssignment, hwindow, fits_withoutOffsets (test_withoutOffset assignmentPattern)]
  rfl

theorem Settled.every {env : Environment} {assigned : List Token} (h : Settled env assigned) :
    Every (fun t => env.withoutOffsets.resolve t = t)
      (.symbol setKeyword :: withoutOffsets (assigned.map env.resolve)) := by
  have hresolved : ∀ t ∈ .symbol setKeyword :: assigned.map env.resolve,
      env.withoutOffsets.resolve t.withoutOffset = t.withoutOffset := fun t ht =>
    (env.resolve_withoutOffsets t).trans (h.resolved t ht)
  intro t ht
  obtain ⟨u, hu, rfl⟩ := List.mem_map.mp
    (show t ∈ (.symbol setKeyword :: assigned.map env.resolve).map Token.withoutOffset from ht)
  exact hresolved u hu

/-- What comes to the number `n`, or is left as a minus and a number that `n` is the negative of. -/
def Yields (n : Number) (outcome : Except Failure (List Token)) : Prop :=
  outcome = .ok [.number n] ∨ ∃ p m, outcome = .ok [.char '-' p, .number m] ∧ n = m.neg

theorem yields_withoutOffsets {n : Number} {outcome : Except Failure (List Token)} :
    Yields n (tokensOnly outcome) ↔ Yields n outcome := by
  constructor
  · intro h
    cases outcome with
    | error f =>
      rcases h with h | ⟨p, m, h, hn⟩
      · cases h
      · cases h
    | ok tokens =>
      rcases h with h | ⟨p, m, h, hn⟩
      · obtain ⟨t, rest, rfl, ht, hrest⟩ := List.map_eq_cons_iff.mp (Except.ok.inj h)
        obtain rfl := List.map_eq_nil_iff.mp hrest
        cases t <;> cases ht
        exact .inl rfl
      · obtain ⟨t, rest, rfl, ht, hrest⟩ := List.map_eq_cons_iff.mp (Except.ok.inj h)
        obtain ⟨u, rest, rfl, hu, hrest⟩ := List.map_eq_cons_iff.mp hrest
        obtain rfl := List.map_eq_nil_iff.mp hrest
        cases t <;> cases ht
        cases u <;> cases hu
        exact .inr ⟨_, m, rfl, hn⟩
  · rintro (rfl | ⟨p, m, rfl, hn⟩)
    · exact .inl rfl
    · exact .inr ⟨none, m, rfl, hn⟩

theorem Spares.yields_iff {prepare : List Token → List Token} {settled : Token → Prop}
    (H : Spares prepare settled) {tokens : List Token} (hs : Every settled tokens)
    (hb : Balanced (parens tokens)) {depth depth' : Nat} (hd : 0 < depth) (hd' : depth < depth')
    {n : Number} :
    arithmetic (evaluateWithin prepare depth') (.sign '(' :: (tokens ++ [.sign ')'])) =
        .ok [.number n] ↔
      Yields n (arithmetic (evaluateWithin prepare depth) tokens) := by
  obtain ⟨depth, rfl⟩ : ∃ k, depth = k + 1 := ⟨depth - 1, by omega⟩
  obtain ⟨depth', rfl⟩ : ∃ k, depth' = k + 1 := ⟨depth' - 1, by omega⟩
  constructor
  · intro h
    obtain ⟨flat, reduced, hreduced, hrun, hagain⟩ := H.exists_reduced hs hb depth h
    rw [hrun]
    rcases reduce_reduce hreduced hagain with rfl | ⟨p, m, rfl, hn⟩
    · exact .inl rfl
    · exact .inr ⟨p, m, rfl, hn⟩
  · rintro (h | ⟨p, m, h, rfl⟩)
    · exact arithmetic_within_parenthesized H.plain hd' h
    · have hplain : ArePlain [.char '-' p, .number m] :=
        List.forall_mem_cons.mpr ⟨rfl, List.forall_mem_singleton.mpr rfl⟩
      rw [arithmetic_within_enclosed H.plain hd' h hplain, reduce_negated]

theorem compute_parenthesized_iff_standard {s : Session} (hs : s.pipeline = .standard)
    {source : String} (hb : Balanced (solidChars source)) {n : Number} :
    ((Session.compute ("(" ++ source ++ ")")).result s).1 = .ok n ↔
      Yields n ((Session.evaluate source).result s).1 := by
  have hid : ∀ tokens, id (withoutOffsets tokens) = withoutOffsets (id tokens) := fun _ => rfl
  have hlength := length_solidChars_parenthesized source
  have hyields : evaluateWithin id ((solidChars source).length + 252)
        (.sign '(' :: ((solidChars source).map Token.sign ++ [.sign ')'])) = .ok [.number n] ↔
      Yields n (evaluateWithin id ((solidChars source).length + 250)
        ((solidChars source).map Token.sign)) :=
    spares_id.yields_iff (fun _ _ => trivial) (balanced_parens_iff.mpr hb) (by omega) (by omega)
  rw [compute_eq_ok_iff hs, map_sign_parenthesized, hlength, hyields, ← withoutOffsets_tokenize,
    evaluateWithin_withoutOffsets hid, yields_withoutOffsets, result_evaluate_standard hs,
    Pipeline.depthFor_unlimited, length_tokenize]

theorem compute_parenthesized_iff_withVariables {s : Session}
    (hs : s.pipeline = Pipeline.standard.withVariables) {source : String}
    (hsettled : ∀ assigned env, (assignments (keywords (tokenize source))).result s.env =
      (.ok assigned, env) → Settled env assigned) {n : Number} :
    ((Session.compute ("(" ++ source ++ ")")).result s).1 = .ok n ↔
      Yields n ((Session.evaluate source).result s).1 := by
  -- both lines carry out the same assignments, offsets apart
  have hscan : (assignments (keywords ((solidChars source).map Token.sign))).result
      s.env.withoutOffsets =
      editedWithoutOffsets ((assignments (keywords (tokenize source))).result s.env) := by
    rw [← withoutOffsets_tokenize, keywords_withoutOffsets, assignments_withoutOffsets]
  rw [compute_eq_ok_iff_lineWithin hs, map_sign_parenthesized, length_solidChars_parenthesized,
    lineWithin, keywords_parenthesized, result_evaluate_withVariables hs]
  cases hassign : (assignments (keywords (tokenize source))).result s.env with
  | mk outcome env =>
    rw [hassign] at hscan
    cases outcome with
    | error f =>
      rw [assignments_enclosed, Action.result_bind, hscan]
      refine ⟨fun h => (by cases h), fun h => ?_⟩
      rcases h with h | ⟨p, m, h, hn⟩
      · cases h
      · cases h
    | ok assigned =>
      have h := hsettled assigned env hassign
      obtain ⟨hkeyword, hresolved⟩ := List.forall_mem_cons.mp h.every
      have hclosed : completesAssignment (withoutOffsets assigned).reverse = false := by
        rw [← withoutOffsets_reverse, completesAssignment_withoutOffsets]
        exact h.closed
      have hbalanced : Balanced (parens (withoutOffsets (assigned.map env.resolve))) := by
        rw [parens_withoutOffsets]
        exact h.balanced
      have hyields : arithmetic
          (evaluateWithin (resolveNames env.withoutOffsets) ((solidChars source).length + 251))
          (.sign '(' :: (withoutOffsets (assigned.map env.resolve) ++ [.sign ')'])) =
            .ok [.number n] ↔
          Yields n (arithmetic
            (evaluateWithin (resolveNames env.withoutOffsets) ((solidChars source).length + 249))
            (withoutOffsets (assigned.map env.resolve))) :=
        (spares_resolveNames hkeyword).yields_iff hresolved hbalanced (by omega) (by omega)
      rw [assignments_parenthesized hscan hclosed, length_tokenize]
      simp only
      rw [value_eq_ok_iff, map_resolve_parenthesized, env.map_resolve_withoutOffsets, hyields,
        arithmetic_withoutOffsets
          (evaluateWithin_withoutOffsets (resolveNames_withoutOffsets env) _),
        yields_withoutOffsets]

/-- A line in parentheses has a value exactly where the line has it without them, or where the line
is run to nothing but a minus and a number: then the parentheses let the minus be applied. -/
theorem compute_parenthesized_iff {s : Session} {source : String}
    (hs : (s.pipeline = .standard ∧ Balanced (solidChars source)) ∨
      (s.pipeline = Pipeline.standard.withVariables ∧
        ∀ assigned env, (assignments (keywords (tokenize source))).result s.env =
          (.ok assigned, env) → Settled env assigned)) (n : Number) :
    ((Session.compute ("(" ++ source ++ ")")).result s).1 = .ok n ↔
      ((Session.compute source).result s).1 = .ok n ∨
        ∃ p m, ((Session.evaluate source).result s).1 = .ok [.char '-' p, .number m] ∧
          n = m.neg := by
  rw [result_compute s source, value_eq_ok_iff]
  rcases hs with ⟨hs, hbalanced⟩ | ⟨hs, hsettled⟩
  · exact compute_parenthesized_iff_standard hs hbalanced
  · exact compute_parenthesized_iff_withVariables hs hsettled

theorem compute_parenthesized_iff_negatedGroup :
    (∀ assigned env, (assignments (keywords (tokenize "-(x-set(y,4))*2"))).result
        ((Session.start {}).after ["set(x,3)"]).env = (.ok assigned, env) →
          Settled env assigned) ∧
      ((Session.compute ("(" ++ "-(x-set(y,4))*2" ++ ")")).result
          ((Session.start {}).after ["set(x,3)"])).1 = .ok (.int 2) ∧
      (((Session.compute "-(x-set(y,4))*2").result
            ((Session.start {}).after ["set(x,3)"])).1 = .ok (.int 2) ∨
          ∃ p m, ((Session.evaluate "-(x-set(y,4))*2").result
            ((Session.start {}).after ["set(x,3)"])).1 = .ok [.char '-' p, .number m] ∧
              .int 2 = m.neg) := by
  have hassign : (assignments (keywords (tokenize "-(x-set(y,4))*2"))).result
      ((Session.start {}).after ["set(x,3)"]).env =
        (.ok [.char '-' (some 0), .char '(' (some 1), .char 'x' (some 2), .char '-' (some 3),
            .char '4' (some 10), .char ')' (some 12), .char '*' (some 13), .char '2' (some 14)],
          (Environment.empty.insert "x" (.char '3' (some 6))).insert "y"
            (.char '4' (some 10))) := by
    decide +kernel
  have hsettled : ∀ assigned env, (assignments (keywords (tokenize "-(x-set(y,4))*2"))).result
      ((Session.start {}).after ["set(x,3)"]).env = (.ok assigned, env) →
        Settled env assigned := by
    intro assigned env h
    rw [hassign] at h
    obtain ⟨htokens, rfl⟩ := Prod.mk.inj h
    obtain rfl := Except.ok.inj htokens
    exact ⟨by decide +kernel, by decide +kernel, by decide +kernel⟩
  have hs : ((Session.start {}).after ["set(x,3)"]).pipeline = Pipeline.standard.withVariables :=
    Session.pipeline_after _ _
  have hvalue : ((Session.compute ("(" ++ "-(x-set(y,4))*2" ++ ")")).result
      ((Session.start {}).after ["set(x,3)"])).1 = .ok (.int 2) := by
    decide +kernel
  exact ⟨hsettled, hvalue, (compute_parenthesized_iff (.inr ⟨hs, hsettled⟩) (.int 2)).mp hvalue⟩

/-! ### Lines that need their parentheses -/

/-- The value that a line has in parentheses, it has without them. -/
def Session.Unwraps (s : Session) (source : String) : Prop :=
  Balanced (solidChars source) →
    ∀ n, ((Session.compute ("(" ++ source ++ ")")).result s).1 = .ok n →
      ((Session.compute source).result s).1 = .ok n

theorem not_unwraps {s : Session} {source : String} {n : Number} (hb : Balanced (solidChars source))
    (h : ((Session.compute ("(" ++ source ++ ")")).result s).1 = .ok n)
    (hn : ((Session.compute source).result s).1 ≠ .ok n) : ¬s.Unwraps source :=
  fun hs => hn (hs hb n h)

/-- Parentheses can apply a sign that is left, look a name up once more, meet others that names
stand for, complete an assignment, and make a keyword that stands for a token. -/
theorem not_forall_unwraps :
    ¬(Session.start { hasVariables := false }).Unwraps "--3" ∧
      ¬((Session.start {}).after ["set(x,y)", "set(y,3)"]).Unwraps "x" ∧
      ¬((Session.start {}).after ["set(x,()", "set(y,))"]).Unwraps "1y+x2" ∧
      ¬(Session.start {}).Unwraps "1set(x,)" ∧
      ¬((Session.start {}).after ["set(set,3)"]).Unwraps "(s)(e)(t)" := by
  have hsign : ¬(Session.start { hasVariables := false }).Unwraps "--3" :=
    not_unwraps (n := .int 3) (by decide +kernel) (by decide +kernel) (by decide +kernel)
  have hname : ¬((Session.start {}).after ["set(x,y)", "set(y,3)"]).Unwraps "x" :=
    not_unwraps (n := .int 3) (by decide +kernel) (by decide +kernel) (by decide +kernel)
  have hparens : ¬((Session.start {}).after ["set(x,()", "set(y,))"]).Unwraps "1y+x2" :=
    not_unwraps (n := .int 3) (by decide +kernel) (by decide +kernel) (by decide +kernel)
  have hassignment : ¬(Session.start {}).Unwraps "1set(x,)" :=
    not_unwraps (n := .int 1) (by decide +kernel) (by decide +kernel) (by decide +kernel)
  have hkeyword : ¬((Session.start {}).after ["set(set,3)"]).Unwraps "(s)(e)(t)" :=
    not_unwraps (n := .int 3) (by decide +kernel) (by decide +kernel) (by decide +kernel)
  exact ⟨hsign, hname, hparens, hassignment, hkeyword⟩

end Calculator
