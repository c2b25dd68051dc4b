import Calculator.Proofs.NestingLimits
import Calculator.Proofs.Sessions

/-! Limits on numbers.  Without a tracer a line ends in a report, be it a value or an evaluation
error, unless one of its numbers exceeds a limit: what is too large for double precision, has too
many digits to be read, or has too many to be written stops the line.  So does the limit on how deep
runs may nest. -/

namespace Calculator

/-- Something exceeds a limit on numbers. -/
inductive Failure.IsLimit : Failure → Prop
  | overflow (o : Number.Overflow) : IsLimit (.overflow o)
  | unreadable {count : Nat} : Decimal.digitLimit < count →
      IsLimit (.unreadable (.tooManyDigits count))
  | unwritable : IsLimit .unwritable

/-- What can stop a run of a line. -/
inductive Failure.IsOrdinary : Failure → Prop
  | evaluation (e : EvaluationError) : IsOrdinary (.evaluation e)
  | limit {f : Failure} : f.IsLimit → IsOrdinary f
  | nestedTooDeep : IsOrdinary .nestedTooDeep

/-- The digits of a token, if it has any, are ASCII digits. -/
def Token.IsSpelled (t : Token) : Prop :=
  ∀ digits, t.digits? = some digits → ∃ a : Literal, digits = String.ofList a.digits

theorem isSpelled_char (c : Char) (p : Option Int) : (Token.char c p).IsSpelled := by
  intro digits h
  rw [Token.digits?] at h
  split at h
  · rename_i hc
    obtain rfl := Option.some.inj h
    exact ⟨.ofDigit c hc, String.singleton_eq_ofList⟩
  · cases h

theorem isSpelled_tokenize (source : String) : Every Token.IsSpelled (tokenize source) := by
  intro t hmem
  obtain ⟨i, c, -, rfl⟩ := exists_of_mem_tokensFrom hmem
  exact isSpelled_char c _

theorem inherited_isSpelled : Inherited Token.IsSpelled Failure.IsOrdinary where
  number := nofun
  joined := by
    intro s t a b hs ht ha hb digits h
    obtain ⟨l, rfl⟩ := hs a ha
    obtain ⟨m, rfl⟩ := ht b hb
    have hne : l.digits ++ m.digits ≠ [] := by simp [l.nonempty]
    have hascii : ∀ c ∈ l.digits ++ m.digits, Text.isAsciiDigit c = true :=
      List.forall_mem_append.mpr ⟨l.ascii, m.ascii⟩
    refine ⟨⟨l.digits ++ m.digits, hne, hascii⟩, ?_⟩
    rw [← Option.some.inj h, String.ofList_append]
  unreadable := by
    intro t digits f ht hd hf
    obtain ⟨l, rfl⟩ := ht digits hd
    rw [readInteger_literal] at hf
    split at hf
    · cases hf
    · rename_i hlong
      obtain rfl := Except.error.inj hf
      exact .limit (.unreadable (Nat.not_le.mp hlong))
  blamed := fun _ _ => .evaluation _
  empty := .evaluation _
  overflow := fun o => .limit (.overflow o)
  unwritable := .limit .unwritable

/-- A report on what an expression comes to. -/
def Report.Gives (r : Report) : Except Failure Number → Prop
  | .ok n => r.verdict = .value n
  | .error f => ∃ e, f = .evaluation e ∧ r.verdict = .error e

namespace Session

theorem handle_untraced {s : Session} (ht : s.settings.tracing = false) (source : String) :
    (s.handle source).session = ((evaluate source).result s).2 ∧
      (s.handle source).report = reportOf source [] ((evaluate source).result s).1 := by
  rw [handle, Settings.tracer?_eq_none_iff.mpr ht]
  exact ⟨rfl, rfl⟩

/-- The report on a run is what the run comes to; a failure that is no evaluation error is handed
on. -/
theorem reportOf_gives (source : String) (traced : List String)
    (run : Except Failure (List Token)) :
    (∃ r, reportOf source traced run = .ok r ∧ r.Gives (run >>= finalValue)) ∨
      ∃ f, reportOf source traced run = .error f ∧ (run >>= finalValue) = .error f ∧
        ∀ e, f ≠ .evaluation e := by
  cases run with
  | error f =>
    by_cases he : ∃ e, f = .evaluation e
    · obtain ⟨e, rfl⟩ := he
      exact .inl ⟨⟨source, .error e, [], traced⟩, rfl, e, rfl, rfl⟩
    · refine .inr ⟨f, ?_, rfl, fun e h => he ⟨e, h⟩⟩
      cases f with
      | evaluation e => exact absurd ⟨e, rfl⟩ he
      | _ => rfl
  | ok tokens =>
    rw [reportOf, Except.ok_bind]
    cases finalValue tokens with
    | ok n => exact .inl ⟨⟨source, .value n, tokens, traced⟩, rfl, rfl⟩
    | error f =>
      by_cases he : ∃ e, f = .evaluation e
      · obtain ⟨e, rfl⟩ := he
        exact .inl ⟨⟨source, .error e, tokens, traced⟩, rfl, e, rfl, rfl⟩
      · refine .inr ⟨f, ?_, rfl, fun e h => he ⟨e, h⟩⟩
        cases f with
        | evaluation e => exact absurd ⟨e, rfl⟩ he
        | _ => rfl

/-- Where nothing limits how deep runs nest, no line of a session is stopped because its groups lie
too deep inside each other. -/
theorem ne_nestedTooDeep_of_compute {s : Session}
    (hp : ∀ n, ∀ p ∈ s.pipeline.passes, p.Obeys (shrinking n)) (source : String) :
    ((compute source).result s).1 ≠ .error .nestedTooDeep := by
  have hdepth : (tokenize source).length < 2 * Pipeline.depthFor (tokenize source) := by
    rw [Pipeline.depthFor_unlimited]
    omega
  have hrun := Pipeline.shrinks_runWithin (o := .silent) (fun _ h => h) hp (fun _ _ => trivial)
    hdepth ⟨s.env, ()⟩ trivial
  have hvalue : Meets (fun _ => True) (fun f => f ≠ .nestedTooDeep)
      ((compute source).result s).1 := by
    rw [result_compute]
    exact hrun.2.bind fun tokens _ => inherited_shallow.finalValue fun _ _ => trivial
  intro h
  rw [h] at hvalue
  exact hvalue rfl

/-- Without a limit on how deep runs nest, a line is reported as what it comes to unless a number in
it exceeds a limit. -/
theorem report_of_unlimited {s : Session} (ht : s.settings.tracing = false)
    (hpipeline : s.pipeline = s.settings.pipeline) (henv : s.env.Binds Token.IsSpelled)
    (source : String) :
    (∃ r, (s.handle source).report = .ok r ∧ r.Gives ((compute source).result s).1) ∨
      ∃ f, (s.handle source).report = .error f ∧ ((compute source).result s).1 = .error f ∧
        f.IsLimit := by
  have hp := s.settings.obeys_pipeline inherited_isSpelled nofun
  have htemplate : s.settings.tracing = true → ∀ f, Failure.IsOrdinary (.template f) := by
    rw [ht]
    exact nofun
  obtain ⟨-, hordinary⟩ := keeps_handle inherited_isSpelled .nestedTooDeep (hpipeline ▸ hp)
    htemplate henv (isSpelled_tokenize source) none
  have hreport := (handle_untraced ht source).2
  have hcompute : ((compute source).result s).1 =
      ((evaluate source).result s).1 >>= finalValue := by
    rw [result_compute]
  rcases reportOf_gives source [] ((evaluate source).result s).1 with h | ⟨f, hf, hrun, hne⟩
  · rw [← hreport, ← hcompute] at h
    exact .inl h
  · rw [← hreport] at hf
    rw [← hcompute] at hrun
    have hshrinks : ∀ n, ∀ p ∈ s.pipeline.passes, p.Obeys (shrinking n) := by
      rw [hpipeline]
      exact s.settings.shrinks_pipeline
    rw [hf] at hordinary
    have hf' : f.IsOrdinary := hordinary
    refine .inr ⟨f, hf, hrun, ?_⟩
    cases hf' with
    | evaluation e => exact absurd rfl (hne e)
    | limit h => exact h
    | nestedTooDeep => exact absurd hrun (ne_nestedTooDeep_of_compute hshrinks source)

/-- A line is reported as what it comes to, unless a number in it exceeds a limit, or its runs nest
deeper than its limit lets them.  The latter takes a line of twice as many tokens.  The lines before
it may have had other limits. -/
theorem report_or_limit {settings : Settings} (ht : settings.tracing = false)
    (instruments : Instruments) (lines : List (String × Option Nat)) (source : String)
    (limit : Option Nat) :
    let s := (start settings .empty instruments).afterWithin lines
    let report := (s.handle source limit).report
    let computed := ((compute source).result s).1
    (∃ r, report = .ok r ∧ r.Gives computed) ∨
      (∃ f, report = .error f ∧ computed = .error f ∧ f.IsLimit) ∨
      report = .error .nestedTooDeep ∧
        ∃ depth, limit = some depth ∧ 2 * depth ≤ (tokenize source).length := by
  intro s report computed
  have hsettings : s.settings = settings := settings_afterWithin _ lines
  have hpipeline : s.pipeline = settings.pipeline := pipeline_afterWithin _ lines
  have hempty : Environment.empty.Binds Token.IsSpelled := fun name t h => by cases h
  have htemplate : settings.tracing = true → ∀ f, Failure.IsOrdinary (.template f) := by
    rw [ht]
    exact nofun
  have henv : s.env.Binds Token.IsSpelled := binds_afterWithin inherited_isSpelled .nestedTooDeep
    (settings.obeys_pipeline inherited_isSpelled nofun) htemplate
    (inherited_isSpelled.bindOn settings hempty) fun line _ => isSpelled_tokenize line.1
  have hp : ∀ n, ∀ p ∈ s.pipeline.passes, p.Obeys (shrinking n) := by
    rw [hpipeline]
    exact settings.shrinks_pipeline
  rcases s.handle_limited hp source limit with hsame | hdeep
  · have hunlimited := report_of_unlimited (hsettings ▸ ht) (hsettings ▸ hpipeline) henv source
    rw [← hsame] at hunlimited
    exact hunlimited.imp_right .inl
  · exact .inr (.inr hdeep)

/-- A group, where no run may lie inside another. -/
example : ((start {}).handle "(1)" (some 1)).report.toOption.isNone := by decide +kernel

/-- The literal of `10 ^ 309`. -/
def largeLiteral : Literal where
  digits := '1' :: List.replicate 309 '0'
  nonempty := List.cons_ne_nil _ _
  ascii := by
    intro c hc
    rcases List.mem_cons.mp hc with rfl | hc
    · rfl
    · rw [List.eq_of_mem_replicate hc]
      rfl

/-- The line that divides `10 ^ 309` by three, which is too large for double precision. -/
def largeQuotient : Expression Operand .sum :=
  .term (.scaled (.single (.plain (.atom (.literal largeLiteral)))) .dividedBy
    (.plain (.atom (.literal (.ofDigit '3' (.refl true))))))

theorem compute_largeQuotient :
    ((compute (String.ofList largeQuotient.lineText)).result ((start {}).after [])).1 =
      .error (.overflow .quotient) := by
  let v : Expression Numeric .sum :=
    .term (.scaled (.single (.plain (.atom (.digits largeLiteral)))) .dividedBy
      (.plain (.atom (.digits (.ofDigit '3' rfl)))))
  have hmeaning : (meaning largeQuotient).run Environment.empty = some (v, .empty) := rfl
  have hreadable : v.AllReadable := by
    intro a ha
    have hcases : a = .digits largeLiteral ∨ a = .digits (.ofDigit '3' rfl) := by
      simpa [v, Expression.lexemes] using ha
    rcases hcases with rfl | rfl
    · have hlong : largeLiteral.IsReadable := by decide +kernel
      exact hlong
    · have hshort : (Literal.ofDigit '3' rfl).IsReadable := by decide
      exact hshort
  have houtcome : v.numbers.outcome = .error (.overflow .quotient) := by decide +kernel
  have hsource : solidChars (String.ofList largeQuotient.lineText) = largeQuotient.lineText := by
    rw [solidChars, String.toList_ofList]
    decide +kernel
  have hempty : Environment.empty.IsNumeric := fun name t h => by cases h
  obtain ⟨hline, -⟩ := withoutOffsets_compute_withVariables (s := (start {}).after []) rfl
    (String.ofList largeQuotient.lineText)
  obtain ⟨-, -, hvalue⟩ := lineWithin_meaning hmeaning hempty
    (largeQuotient.lineText.length + 248)
  rw [hsource] at hline
  have hcomputed := (congrArg Prod.fst hline).trans ((hvalue hreadable).trans houtcome)
  cases hresult : ((compute (String.ofList largeQuotient.lineText)).result
      ((start {}).after [])).1 with
  | ok n =>
    rw [hresult] at hcomputed
    cases hcomputed
  | error f =>
    rw [hresult] at hcomputed
    have hf : f.withoutOffset = .overflow .quotient := Except.error.inj hcomputed
    cases f with
    | overflow o => exact congrArg Except.error hf
    | _ => cases hf

theorem not_reported_largeQuotient (r : Report) :
    (((start {}).after []).handle (String.ofList largeQuotient.lineText)).report ≠ .ok r := by
  intro hr
  obtain ⟨-, hreport⟩ := handle_untraced (s := (start {}).after []) rfl
    (String.ofList largeQuotient.lineText)
  have hcompute := compute_largeQuotient
  rw [result_compute] at hcompute
  dsimp only at hcompute
  have hgives := reportOf_gives (String.ofList largeQuotient.lineText) []
    ((evaluate (String.ofList largeQuotient.lineText)).result ((start {}).after [])).1
  rw [← hreport, hr, hcompute] at hgives
  rcases hgives with ⟨r, -, e, he, -⟩ | ⟨f, hf, -⟩
  · cases he
  · cases hf

/-- The line overflows with room for any number of runs inside each other. -/
theorem limit_of_report_largeQuotient :
    let s := (start {} .empty {}).afterWithin []
    ∃ f, (s.handle (String.ofList largeQuotient.lineText)).report = .error f ∧
      ((compute (String.ofList largeQuotient.lineText)).result s).1 = .error f ∧
      f.IsLimit := by
  intro s
  have huntraced : Settings.tracing {} = false := rfl
  rcases report_or_limit huntraced {} [] (String.ofList largeQuotient.lineText) none with
    ⟨r, hr, -⟩ | hlimit | ⟨-, depth, hdepth, -⟩
  · exact absurd hr (not_reported_largeQuotient r)
  · exact hlimit
  · cases hdepth

/-- Not every line is reported. -/
theorem not_forall_reported :
    ¬∀ (lines : List String) (source : String),
      ∃ r, (((start {}).after lines).handle source).report = .ok r := by
  intro h
  obtain ⟨r, hr⟩ := h [] (String.ofList largeQuotient.lineText)
  exact not_reported_largeQuotient r hr

end Session

end Calculator
