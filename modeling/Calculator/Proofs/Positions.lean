import Calculator.Proofs.Lines

/-! Where errors point.  A character keeps the offset that it had in its own line, also when it is
bound to a name and looked up later.  So an error points at its place in the line that was
evaluated, or else at the place that a bound character had in the line it came from. -/

namespace Calculator

/-- The character `c` stands in a text at the offset `p`. -/
def StandsAt (source : String) (c : Char) (p : Int) : Prop :=
  ∃ i : Nat, p = i ∧ source.toList[i]? = some c

/-- A token with an offset is a character at a place that `places` has. -/
def Token.IsPlaced (places : Char → Int → Prop) (t : Token) : Prop :=
  ∀ c p, t = .char c (some p) → places c p

/-- An error that points at a token points at one that is placed. -/
def Failure.IsPlaced (places : Char → Int → Prop) (f : Failure) : Prop :=
  ∀ e, f = .evaluation e → ∀ t ∈ e.token, t.IsPlaced places

variable {places : Char → Int → Prop}

theorem Token.isPlaced_symbol (name : String) : (Token.symbol name).IsPlaced places :=
  fun _ _ h => by cases h

theorem Failure.isPlaced_nestedTooDeep : Failure.nestedTooDeep.IsPlaced places :=
  fun _ h => by cases h

theorem Failure.isPlaced_template (f : Template.Fault) : (Failure.template f).IsPlaced places :=
  fun _ h => by cases h

theorem inherited_isPlaced :
    Inherited (Token.IsPlaced places) (Failure.IsPlaced places) where
  number _ _ _ h := by cases h
  joined _ _ _ _ _ _ h := by cases h
  unreadable _ _ _ _ h := by cases h
  blamed := by
    intro t cause ht _ e he u hu
    obtain rfl := Failure.evaluation.inj he
    obtain rfl := Option.some.inj hu
    exact ht
  empty := by
    intro e he t ht
    obtain rfl := Failure.evaluation.inj he
    cases ht
  overflow _ _ h := by cases h
  unwritable _ h := by cases h

theorem isPlaced_tokenize {source : String}
    (h : ∀ c p, StandsAt source c p → places c p) :
    Every (Token.IsPlaced places) (tokenize source) := by
  intro t ht c p he
  obtain ⟨i, d, hd, rfl⟩ := exists_of_mem_tokensFrom ht
  obtain ⟨rfl, hp⟩ := Token.char.inj he
  exact h d p ⟨i, by simpa using (Option.some.inj hp).symm, hd⟩

namespace Session

/-- The characters that are bound after some lines have the offsets that they had in them. -/
theorem binds_after_isPlaced (settings : Settings) (instruments : Instruments)
    (lines : List String) :
    ((Session.start settings .empty instruments).after lines).env.Binds
      (Token.IsPlaced fun c p => ∃ line ∈ lines, StandsAt line c p) := by
  let places : Char → Int → Prop := fun c p => ∃ line ∈ lines, StandsAt line c p
  have H : Inherited (Token.IsPlaced places) (Failure.IsPlaced places) := inherited_isPlaced
  have hempty : Environment.empty.Binds (Token.IsPlaced places) := fun name t h => by cases h
  rw [after_eq]
  refine binds_afterWithin H Failure.isPlaced_nestedTooDeep
    (settings.obeys_pipeline H (Token.isPlaced_symbol _)) (fun _ => Failure.isPlaced_template)
    (H.bindOn settings hempty) (List.forall_mem_map.mpr fun line hline => ?_)
  exact isPlaced_tokenize fun c p hplace => ⟨line, hline, hplace⟩

/-- The character that the error of a line points at has its offset in the line, unless it was bound
before: then it has its offset in an earlier line. -/
theorem standsAt_of_report {settings : Settings} {instruments : Instruments} {lines : List String}
    {source : String} {r : Report}
    (h : (((Session.start settings .empty instruments).after lines).handle source).report = .ok r)
    {c : Char} {p : Int} (ht : r.token? = some (.char c (some p))) :
    StandsAt source c p ∨
      ∃ name, ((Session.start settings .empty instruments).after lines).env.get? name =
          some (.char c (some p)) ∧
        ∃ line ∈ lines, StandsAt line c p := by
  let s := (Session.start settings .empty instruments).after lines
  let places : Char → Int → Prop := fun c p =>
    StandsAt source c p ∨ ∃ name, s.env.get? name = some (.char c (some p))
  have hp : ∀ pass ∈ s.pipeline.passes,
      pass.Obeys (inheritance (Token.IsPlaced places) (Failure.IsPlaced places)) := by
    rw [pipeline_after]
    exact settings.obeys_pipeline inherited_isPlaced (Token.isPlaced_symbol _)
  have henv : s.env.Binds (Token.IsPlaced places) := fun name t hname c p he =>
    .inr ⟨name, he ▸ hname⟩
  have hsource : Every (Token.IsPlaced places) (tokenize source) :=
    isPlaced_tokenize fun c p => .inl
  obtain ⟨-, hreport⟩ := keeps_handle inherited_isPlaced Failure.isPlaced_nestedTooDeep hp
    (fun _ => Failure.isPlaced_template) henv hsource none
  rw [h] at hreport
  cases hv : r.verdict with
  | value n =>
    rw [Report.token?, hv] at ht
    cases ht
  | error e =>
    rw [Report.token?, hv] at ht
    refine (hreport e hv e rfl (.char c (some p)) ht c p rfl).imp_right ?_
    rintro ⟨name, hname⟩
    exact ⟨name, hname, binds_after_isPlaced settings instruments lines name _ hname c p rfl⟩

/-- The second line fails for the `y` that the first line has stored. -/
theorem token?_storedName :
    (((Session.start {}).after ["set(x,y)"]).handle "x").report.toOption.bind Report.token? =
      some (.char 'y' (some 6)) := by
  decide +kernel

theorem exists_report_storedName : ∃ r,
    (((Session.start {}).after ["set(x,y)"]).handle "x").report = .ok r ∧
      r.token? = some (.char 'y' (some 6)) := by
  obtain ⟨r, hr, ht⟩ := Option.bind_eq_some_iff.mp token?_storedName
  cases hreport : (((Session.start {}).after ["set(x,y)"]).handle "x").report with
  | error f =>
    rw [hreport] at hr
    cases hr
  | ok r' =>
    rw [hreport] at hr
    obtain rfl := Option.some.inj hr
    exact ⟨r', rfl, ht⟩

theorem not_standsAt_storedName : ¬StandsAt "x" 'y' 6 := by
  rintro ⟨i, hi, hc⟩
  obtain rfl : i = 6 := by omega
  simp at hc

theorem standsAt_of_report_storedName :
    ∃ r, (((Session.start {}).after ["set(x,y)"]).handle "x").report = .ok r ∧
      r.token? = some (.char 'y' (some 6)) ∧
      ∃ name, ((Session.start {}).after ["set(x,y)"]).env.get? name = some (.char 'y' (some 6)) ∧
        ∃ line ∈ ["set(x,y)"], StandsAt line 'y' 6 := by
  obtain ⟨r, hr, ht⟩ := exists_report_storedName
  exact ⟨r, hr, ht, (standsAt_of_report hr ht).resolve_left not_standsAt_storedName⟩

/-- Not every error points into the line that was evaluated. -/
theorem not_forall_standsAt :
    ¬∀ (lines : List String) (source : String) (r : Report) (c : Char) (p : Int),
      (((Session.start {}).after lines).handle source).report = .ok r →
        r.token? = some (.char c (some p)) → StandsAt source c p := by
  intro h
  obtain ⟨r, hr, ht⟩ := exists_report_storedName
  exact not_standsAt_storedName (h ["set(x,y)"] "x" r 'y' 6 hr ht)

end Session

end Calculator
