import Calculator.Proofs.Assignments
import Calculator.Proofs.Survival

/-! Parentheses around a whole line.  What a line with a value leaves for its signs and folds is a
chain; inside parentheses this chain is run once more, to the same number.  That no assignment is
finished by the closing parenthesis is due to its comma, which would have been in the way of a
value. -/

namespace Calculator

/-! ### Deeper runs -/

/-- A run that succeeds does so when runs may lie deeper inside each other. -/
theorem evaluateWithin_mono {prepare : List Token → List Token} {depth depth' : Nat}
    (hd : depth ≤ depth') {tokens result : List Token}
    (h : evaluateWithin prepare depth tokens = .ok result) :
    evaluateWithin prepare depth' tokens = .ok result := by
  induction depth generalizing depth' tokens result with
  | zero => cases h
  | succ depth ih =>
    obtain ⟨depth', rfl⟩ : ∃ k, depth' = k + 1 := ⟨depth' - 1, by omega⟩
    obtain ⟨numbers, hnumbers, h⟩ := Except.bind_eq_ok_iff.mp h
    obtain ⟨flat, hflat, h⟩ := Except.bind_eq_ok_iff.mp h
    have hd : depth ≤ depth' := by omega
    have hgroups := (groupTrace_of_carryOut hflat).mono fun _ _ hr => ih hd hr
    rw [evaluateWithin, arithmetic, hnumbers, Except.ok_bind, hgroups.carryOut, Except.ok_bind, h]

/-! ### Numerals in parentheses -/

theorem foldl_joinDigits_append (tokens output : List Token) {c : Char} (hc : IsNoDigit c) :
    tokens.foldl joinDigits (output ++ [.sign c]) =
      tokens.foldl joinDigits output ++ [.sign c] := by
  have hjoin : ∀ t output, joinDigits (output ++ [.sign c]) t =
      joinDigits output t ++ [.sign c] := by
    intro t output
    cases output with
    | nil =>
      have hbase : TakesNoDigits [.sign c] := fun u hu => by
        obtain rfl := Option.some.inj hu
        exact isDigit_sign hc
      exact joinDigits_of_takesNoDigits hbase t
    | cons last output =>
      simp only [List.cons_append, joinDigits]
      split <;> rfl
  induction tokens generalizing output with
  | nil => rfl
  | cons t tokens ih => rw [List.foldl_cons, hjoin, ih, List.foldl_cons]

theorem convertNumerals_append (first second : List Token) :
    convertNumerals (first ++ second) = (do
      let numbers ← convertNumerals first
      let numbers' ← convertNumerals second
      .ok (numbers ++ numbers')) :=
  List.mapM_append

theorem readNumbers_parenthesized (tokens : List Token) :
    readNumbers (.sign '(' :: (tokens ++ [.sign ')'])) = (do
      let numbers ← readNumbers tokens
      .ok (.sign '(' :: (numbers ++ [.sign ')']))) := by
  have hmerged : mergeDigits (.sign '(' :: (tokens ++ [.sign ')'])) =
      [.sign '('] ++ (mergeDigits tokens ++ [.sign ')']) := by
    have hopen : joinDigits [] (.sign '(') = [] ++ [.sign '('] := rfl
    have hsign : IsNoDigit '(' := by unfold IsNoDigit; decide
    have hclose : (Token.sign ')').isDigit = false := isDigit_sign (by decide)
    rw [mergeDigits, mergeDigits, List.foldl_cons, hopen, List.foldl_append,
      foldl_joinDigits_append tokens [] hsign, List.foldl_cons, List.foldl_nil,
      joinDigits_of_not_isDigit hclose]
    simp
  have hopen : convertNumerals [.sign '('] = .ok [.sign '('] := rfl
  have hclose : convertNumerals [.sign ')'] = .ok [.sign ')'] := rfl
  rw [readNumbers, readNumbers, hmerged, convertNumerals_append, convertNumerals_append, hopen,
    hclose]
  cases convertNumerals (mergeDigits tokens) <;> rfl

/-! ### What survives -/

/-- A token that plain arithmetic has no use for. -/
structure Token.IsInert (t : Token) : Prop where
  notDigit : t.isDigit = false
  notPlain : t.isPlain = false
  notOpen : t.isChar '(' = false
  notClose : t.isChar ')' = false

section Survival

variable {t : Token}

theorem GroupTrace.mem {inner : List Token → Except Failure (List Token)}
    {output tokens flat : List Token} (h : GroupTrace inner output tokens flat)
    (hinner : ∀ tokens result, inner tokens = .ok result → t ∈ tokens → t ∈ result)
    (ht : t.IsInert) (hmem : t ∈ output ∨ t ∈ tokens) : t ∈ flat := by
  induction h with
  | done output =>
    rcases hmem with hmem | hmem
    · exact List.mem_reverse.mpr hmem
    · cases hmem
  | push _ _ ih =>
    refine ih ?_
    simp only [List.mem_cons] at hmem ⊢
    tauto
  | @close u paren group below result tokens flat isClose isOpen content run _ ih =>
    have hne : t ≠ u := by
      rintro rfl
      rw [ht.notClose] at isClose
      cases isClose
    have hne' : t ≠ paren := by
      rintro rfl
      rw [ht.notOpen] at isOpen
      cases isOpen
    have hresult : t ∈ group → t ∈ result := fun hg =>
      hinner _ _ run (List.mem_reverse.mpr hg)
    refine ih ?_
    simp only [List.mem_append, List.mem_cons, List.mem_reverse, hne, hne', false_or] at hmem ⊢
    tauto

theorem mem_arithmetic {inner : List Token → Except Failure (List Token)}
    (hinner : ∀ tokens result, inner tokens = .ok result → t ∈ tokens → t ∈ result)
    (ht : t.IsInert) {tokens result : List Token} (h : t ∈ tokens)
    (hr : arithmetic inner tokens = .ok result) : t ∈ result := by
  obtain ⟨numbers, hnumbers, hr⟩ := Except.bind_eq_ok_iff.mp hr
  obtain ⟨flat, hflat, hr⟩ := Except.bind_eq_ok_iff.mp hr
  have hmem := mem_readNumbers ht.notDigit ht.notPlain h hnumbers
  have hkept := (groupTrace_of_carryOut hflat).mem hinner ht (.inr hmem)
  exact mem_reduce ht.notPlain hkept hr

/-- Inert tokens survive a run, also those inside groups. -/
theorem mem_evaluateWithin {prepare : List Token → List Token}
    (hp : ∀ tokens, t ∈ tokens → t ∈ prepare tokens) (ht : t.IsInert) {depth : Nat}
    {tokens result : List Token} (hr : evaluateWithin prepare depth tokens = .ok result)
    (h : t ∈ tokens) : t ∈ result := by
  induction depth generalizing tokens result with
  | zero => cases hr
  | succ depth ih => exact mem_arithmetic (fun _ _ => ih) ht (hp tokens h) hr

end Survival

/-! ### Plain tokens in parentheses -/

/-- What is reduced to plain tokens is plain. -/
theorem arePlain_of_reduced {tokens reduced : List Token} (h : reduce tokens = .ok reduced)
    (hr : ArePlain reduced) : ArePlain tokens := by
  intro t ht
  by_contra hplain
  have hmem : t ∈ reduced := mem_reduce (by simpa using hplain) ht h
  exact hplain (hr t hmem)

/-- What plain arithmetic leaves is, when it is plain, reduced once more inside parentheses. -/
theorem arithmetic_enclosed {inner inner' : List Token → Except Failure (List Token)}
    (hinner : ∀ tokens result, inner tokens = .ok result → inner' tokens = .ok result)
    (hplain : ∀ tokens, ArePlain tokens → inner' tokens = reduce tokens)
    {tokens reduced : List Token} (h : arithmetic inner tokens = .ok reduced)
    (hr : ArePlain reduced) :
    arithmetic inner' (.sign '(' :: (tokens ++ [.sign ')'])) = reduce reduced := by
  obtain ⟨numbers, hnumbers, h⟩ := Except.bind_eq_ok_iff.mp h
  obtain ⟨flat, hflat, hreduce⟩ := Except.bind_eq_ok_iff.mp h
  have harePlain := arePlain_of_reduced hreduce hr
  have hinside := (groupTrace_of_carryOut hflat).mono hinner
  have hrun : inner' flat.reverse.reverse = .ok reduced := by
    rw [List.reverse_reverse, hplain flat harePlain, hreduce]
  have hclose : GroupTrace inner' (flat.reverse ++ [.sign '(']) [.sign ')']
      (reduced.reverse ++ []).reverse :=
    .close rfl rfl harePlain.noOpen.reverse hrun (.done _)
  have htrace : GroupTrace inner' [] (.sign '(' :: (numbers ++ [.sign ')']))
      (reduced.reverse ++ []).reverse :=
    .push rfl (hinside.append hclose)
  rw [arithmetic, readNumbers_parenthesized, hnumbers, Except.ok_bind, Except.ok_bind,
    htrace.carryOut, Except.ok_bind, List.append_nil, List.reverse_reverse]

theorem arithmetic_within_enclosed {prepare : List Token → List Token} (hp : KeepsPlain prepare)
    {depth depth' : Nat} (hd : depth < depth') {tokens reduced : List Token}
    (h : arithmetic (evaluateWithin prepare depth) tokens = .ok reduced) (hr : ArePlain reduced) :
    arithmetic (evaluateWithin prepare depth') (.sign '(' :: (tokens ++ [.sign ')'])) =
      reduce reduced := by
  obtain ⟨depth', rfl⟩ : ∃ k, depth' = k + 1 := ⟨depth' - 1, by omega⟩
  exact arithmetic_enclosed (fun _ _ hr => evaluateWithin_mono (by omega) hr)
    (fun _ hr => evaluateWithin_of_arePlain hp depth' hr) h hr

theorem arithmetic_within_parenthesized {prepare : List Token → List Token}
    (hp : KeepsPlain prepare) {depth depth' : Nat} (hd : depth < depth') {tokens : List Token}
    {n : Number}
    (h : arithmetic (evaluateWithin prepare depth) tokens = .ok [.number n]) :
    arithmetic (evaluateWithin prepare depth') (.sign '(' :: (tokens ++ [.sign ')'])) =
      .ok [.number n] := by
  have hplain : ArePlain [.number n] := (Chain.ofNumber n).arePlain_tokens
  rw [arithmetic_within_enclosed hp hd h hplain]
  exact reduce_tokens (.ofNumber n)

/-! ### Lines in parentheses -/

theorem isInert_comma (p : Option Int) : Token.IsInert (.char ',' p) := ⟨rfl, rfl, rfl, rfl⟩

theorem resolve_comma (env : Environment) (p : Option Int) :
    env.resolve (.char ',' p) = .char ',' p :=
  Environment.resolve_of_not_isName rfl

theorem mem_resolveNames_comma (env : Environment) {p : Option Int} {tokens : List Token}
    (h : .char ',' p ∈ tokens) : .char ',' p ∈ resolveNames env tokens := by
  have htests : ∀ test ∈ keywordPattern.map Window.Place.test, test (.char ',' p) = false := by
    intro test htest
    obtain ⟨place, hplace, rfl⟩ := List.mem_map.mp htest
    obtain ⟨c, hc, rfl⟩ := List.mem_map.mp hplace
    have hletters : ∀ c ∈ ['s', 'e', 't'], c ≠ ',' := by simp
    simp [(hletters c hc).symm]
  have hkeywords : .char ',' p ∈ keywords tokens := Window.mem_scanOnto_of_mem htests (.inr h)
  exact List.mem_map.mpr ⟨_, hkeywords, resolve_comma env p⟩

/-- No comma is left by the assignments of a line that has a value. -/
theorem noComma_of_arithmetic {env : Environment} {depth : Nat} {assigned : List Token} {n : Number}
    (h : arithmetic (evaluateWithin (resolveNames env) depth) (assigned.map env.resolve) =
      .ok [.number n]) : Lacks ',' assigned := by
  intro t ht
  by_contra hc
  obtain ⟨p, rfl⟩ := Token.isChar_iff.mp (by simpa using hc)
  have hmem : .char ',' p ∈ assigned.map env.resolve :=
    List.mem_map.mpr ⟨_, ht, resolve_comma env p⟩
  have hresult := mem_arithmetic
    (fun _ _ => mem_evaluateWithin (fun _ => mem_resolveNames_comma env) (isInert_comma p))
    (isInert_comma p) hmem h
  simp at hresult

theorem keywords_parenthesized (tokens : List Token) :
    keywords (.sign '(' :: (tokens ++ [.sign ')'])) =
      .sign '(' :: (keywords tokens ++ [.sign ')']) := by
  have hbottom : keywordsOnto [.sign '('] tokens = .sign '(' :: keywords tokens :=
    congrArg Id.run (Window.scanOnto_bottom (m := Id) (by decide) [] tokens)
  have happend : keywordsOnto [.sign '('] (tokens ++ [.sign ')']) =
      keywordsOnto (keywordsOnto [.sign '('] tokens).reverse [.sign ')'] :=
    congrArg Id.run (Window.scanOnto_append (m := Id) [.sign '('] tokens [.sign ')'])
  rw [keywords, keywordsOnto_cons_of_not_last (by decide), happend, hbottom,
    keywordsOnto_cons_of_not_last (by decide)]
  simp [keywordsOnto, Window.scanOnto]

/-- The assignments of tokens in parentheses are those of the tokens, and the one that the last
parenthesis may complete. -/
theorem assignments_enclosed (tokens : List Token) :
    assignments (.sign '(' :: (tokens ++ [.sign ')'])) = (do
      let assigned ← assignments tokens
      let closed ← assignmentsOnto assigned.reverse [.sign ')']
      pure (.sign '(' :: closed)) := by
  have hbottom : assignmentsOnto [.sign '('] (tokens ++ [.sign ')']) = (do
      let scanned ← assignments (tokens ++ [.sign ')'])
      pure (.sign '(' :: scanned)) :=
    Window.scanOnto_bottom (by decide) [] _
  have happend : assignments (tokens ++ [.sign ')']) = (do
      let assigned ← assignments tokens
      assignmentsOnto assigned.reverse [.sign ')']) :=
    Window.scanOnto_append [] tokens _
  rw [assignments, assignmentsOnto_cons (by decide), hbottom, happend, bind_assoc]

/-- Parentheses around some tokens stay there when the last one completes no assignment. -/
theorem assignments_parenthesized {tokens assigned : List Token} {env env' : Environment}
    (h : (assignments tokens).result env = (.ok assigned, env'))
    (hc : completesAssignment assigned.reverse = false) :
    (assignments (.sign '(' :: (tokens ++ [.sign ')']))).result env =
      (.ok (.sign '(' :: (assigned ++ [.sign ')'])), env') := by
  rw [assignments_enclosed, Action.result_bind, h]
  simp only
  rw [assignmentsOnto_close hc]
  simp [assignmentsOnto, Window.scanOnto]

theorem map_resolve_parenthesized (env : Environment) (tokens : List Token) :
    (Token.sign '(' :: (tokens ++ [.sign ')'])).map env.resolve =
      .sign '(' :: (tokens.map env.resolve ++ [.sign ')']) := by
  have hopen : env.resolve (.sign '(') = .sign '(' :=
    Environment.resolve_of_not_isName (by decide)
  have hclose : env.resolve (.sign ')') = .sign ')' :=
    Environment.resolve_of_not_isName (by decide)
  simp [hopen, hclose]

/-- A line with variables has the same value inside parentheses, and it leaves the same
environment. -/
theorem lineWithin_parenthesized {depth depth' : Nat} (hd : depth < depth') {tokens : List Token}
    {env env' : Environment} {n : Number} (h : lineWithin depth tokens env = (.ok n, env')) :
    lineWithin depth' (.sign '(' :: (tokens ++ [.sign ')'])) env = (.ok n, env') := by
  rw [lineWithin] at h
  rw [lineWithin, keywords_parenthesized]
  cases hassign : (assignments (keywords tokens)).result env with
  | mk assigned env'' =>
    rw [hassign] at h
    cases assigned with
    | error e => cases h
    | ok assigned =>
      obtain ⟨hvalue, rfl⟩ := Prod.mk.inj h
      obtain ⟨reduced, hreduced, hfinal⟩ := Except.bind_eq_ok_iff.mp hvalue
      obtain rfl := finalValue_eq_ok_iff.mp hfinal
      have hcomma : Lacks ',' assigned.reverse := (noComma_of_arithmetic hreduced).reverse
      rw [assignments_parenthesized hassign (completesAssignment_of_lacks hcomma)]
      simp only
      rw [map_resolve_parenthesized,
        arithmetic_within_parenthesized (keepsPlain_resolveNames env'') hd hreduced]
      rfl

theorem solidChars_parenthesized (source : String) :
    solidChars ("(" ++ source ++ ")") = '(' :: (solidChars source ++ [')']) := by
  have hopen : solidChars "(" = ['('] := by decide
  have hclose : solidChars ")" = [')'] := by decide
  rw [solidChars] at hopen hclose
  rw [solidChars, String.toList_append, String.toList_append, List.filter_append,
    List.filter_append, hopen, hclose]
  rfl

theorem map_sign_parenthesized (source : String) :
    (solidChars ("(" ++ source ++ ")")).map Token.sign =
      .sign '(' :: ((solidChars source).map Token.sign ++ [.sign ')']) := by
  rw [solidChars_parenthesized]
  simp

theorem length_solidChars_parenthesized (source : String) :
    (solidChars ("(" ++ source ++ ")")).length = (solidChars source).length + 2 := by
  rw [solidChars_parenthesized]
  simp

/-- Parentheses around a whole line change neither its value nor the environment that it leaves. -/
theorem compute_parenthesized {s : Session}
    (hs : s.pipeline = .standard ∨ s.pipeline = Pipeline.standard.withVariables)
    {source : String} {n : Number} (h : ((Session.compute source).result s).1 = .ok n) :
    ((Session.compute ("(" ++ source ++ ")")).result s).1 = .ok n ∧
      ((Session.compute ("(" ++ source ++ ")")).result s).2.env.withoutOffsets =
        ((Session.compute source).result s).2.env.withoutOffsets := by
  have hchars := map_sign_parenthesized source
  have hlength := length_solidChars_parenthesized source
  rcases hs with hs | hs
  · obtain ⟨hvalue, hsession⟩ := withoutOffsets_compute_standard hs source
    obtain ⟨hvalue', hsession'⟩ :=
      withoutOffsets_compute_standard hs ("(" ++ source ++ ")")
    rw [h] at hvalue
    obtain ⟨reduced, hreduced, hfinal⟩ := Except.bind_eq_ok_iff.mp hvalue.symm
    obtain rfl := finalValue_eq_ok_iff.mp hfinal
    have hwrapped : evaluateWithin id ((solidChars source).length + 2 + 250)
        (.sign '(' :: ((solidChars source).map Token.sign ++ [.sign ')'])) =
        .ok [.number n] :=
      arithmetic_within_parenthesized keepsPlain_id (by omega) hreduced
    rw [hchars, hlength, hwrapped] at hvalue'
    exact ⟨eq_ok_of_withoutOffsets hvalue', by rw [hsession, hsession']⟩
  · obtain ⟨hline, -⟩ := withoutOffsets_compute_withVariables hs source
    obtain ⟨hline', -⟩ :=
      withoutOffsets_compute_withVariables hs ("(" ++ source ++ ")")
    rw [h] at hline
    rw [hchars, hlength, lineWithin_parenthesized (by omega) hline.symm] at hline'
    obtain ⟨hvalue, henv⟩ := Prod.mk.inj hline'
    exact ⟨eq_ok_of_withoutOffsets hvalue, henv⟩

theorem compute_parenthesized_sum :
    ((Session.compute "1 + 2").result (.startWith {} .standard .empty)).1 = .ok (.int 3) ∧
      ((Session.compute "(1 + 2)").result (.startWith {} .standard .empty)).1 = .ok (.int 3) := by
  have hsum :
      ((Session.compute "1 + 2").result (.startWith {} .standard .empty)).1 = .ok (.int 3) := by
    decide +kernel
  exact ⟨hsum, (compute_parenthesized (.inl rfl) hsum).1⟩

end Calculator
