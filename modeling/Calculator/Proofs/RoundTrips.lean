import Mathlib.Data.Nat.Digits.Lemmas
import Calculator.Proofs.Assignments
import Calculator.Proofs.Values

/-! Round trips.  An integer is printed as a line that spells an expression of one literal, with a
minus before it when the integer is negative.  Such a line has nothing to assign and nothing to look
up: with variables as without, it comes to the value of its expression and changes nothing, so that
a printed integer that is entered again comes back. -/

namespace Calculator

/-! ### Lines of literals -/

/-- Tokens with nothing to assign and nothing to look up. -/
structure AreConstant (tokens : List Token) : Prop where
  noName : ∀ t ∈ tokens, t.isName = false
  noComma : Lacks ',' tokens

namespace AreConstant

variable {tokens : List Token}

/-- A line of such tokens leaves the environment alone. -/
theorem lineWithin (h : AreConstant tokens) (depth : Nat) (env : Environment) :
    Calculator.lineWithin depth tokens env = ((do
      let reduced ← arithmetic (evaluateWithin (resolveNames env) depth) tokens
      finalValue reduced), env) := by
  rw [Calculator.lineWithin, keywords_of_not_isName h.noName, assignments_of_noComma h.noComma,
    Action.result_pure]
  simp only [Environment.map_resolve_of_not_isName h.noName]

theorem of_withoutOffsets (h : AreConstant (withoutOffsets tokens)) : AreConstant tokens where
  noName t ht := by
    have hname := h.noName _ (List.mem_map_of_mem ht)
    rwa [Token.isName, Token.name?_withoutOffset] at hname
  noComma t ht := by
    have hcomma := h.noComma _ (List.mem_map_of_mem ht)
    rwa [Token.isChar_withoutOffset] at hcomma

end AreConstant

namespace Expression

variable {l : Level}

/-- Only signs and digits are in the text of an expression of literals. -/
theorem sign_or_digit_of_mem_text {e : Expression Literal l} {c : Char} (h : c ∈ e.text) :
    c ∈ signs ∨ Text.isAsciiDigit c = true := by
  obtain ⟨x, hx, hc⟩ := List.mem_flatMap.mp h
  cases x with
  | sign d =>
    rw [List.mem_singleton.mp hc]
    exact .inl (e.separated_lexemes.isSign_of_mem hx)
  | atom a => exact .inr (a.ascii c hc)

theorem isBlank_of_mem_text {e : Expression Literal l} {c : Char} (h : c ∈ e.text) :
    Text.isBlank c = false := by
  rcases sign_or_digit_of_mem_text h with hc | hc
  · have hsigns : ∀ c ∈ signs, Text.isBlank c = false := forall_mem_signs.mpr (by decide)
    exact hsigns c hc
  · have hapart : ∀ r ∈ Text.blankRanges, r.2 < 48 ∨ 57 < r.1 := by decide
    have hrange := toNat_of_isAsciiDigit hc
    rw [← Bool.not_eq_true]
    intro hblank
    obtain ⟨r, hr, hfirst, hlast⟩ := Text.exists_mem_of_inRanges hblank
    have := hapart r hr
    omega

theorem areConstant_text (e : Expression Literal l) : AreConstant (e.text.map Token.sign) := by
  have hsigns : ∀ c ∈ signs, (Token.sign c).isName = false ∧ (Token.sign c).isChar ',' = false :=
    forall_mem_signs.mpr (by decide)
  have hall : ∀ c ∈ e.text, (Token.sign c).isName = false ∧ (Token.sign c).isChar ',' = false := by
    intro c hc
    rcases sign_or_digit_of_mem_text hc with hc | hc
    · exact hsigns c hc
    · have hnumeric : (Token.sign c).numeric?.isSome = true := by rw [Token.numeric?_digit hc]; rfl
      exact ⟨Token.isName_of_numeric hnumeric, Token.isChar_of_numeric hnumeric (by decide)⟩
  exact ⟨List.forall_mem_map.mpr fun c hc => (hall c hc).1,
    List.forall_mem_map.mpr fun c hc => (hall c hc).2⟩

/-- Whatever is done before the runs of groups, the text of an expression comes to what the
expression does. -/
theorem finalValue_text {prepare : List Token → List Token} (hp : KeepsPlain prepare)
    {e : Expression Literal .sum} (he : e.IsReadable) (depth : Nat) :
    (do
      let reduced ← arithmetic (evaluateWithin prepare (depth + 1)) (e.text.map Token.sign)
      finalValue reduced) = e.read.outcome := by
  rw [arithmetic_eq_outcome (evaluateWithin_chain hp depth) (readNumbers_text he), bind_assoc]
  exact bind_pure e.read.outcome

end Expression

/-- A line that spells an expression of literals comes, offsets apart, to what the expression does,
with variables or without, and it changes nothing. -/
theorem withoutOffsets_compute_text {s : Session}
    (hs : s.pipeline = .standard ∨ s.pipeline = Pipeline.standard.withVariables)
    {e : Expression Literal .sum} (he : e.IsReadable) {source : String}
    (hsource : solidChars source = e.text) :
    Except.withoutOffsets id ((Session.compute source).result s).1 = e.read.outcome ∧
      ((Session.compute source).result s).2 = s := by
  rcases hs with hs | hs
  · obtain ⟨hvalue, hafter⟩ := withoutOffsets_compute_standard hs source
    rw [hvalue, hsource]
    exact ⟨Expression.finalValue_text keepsPlain_id he _, hafter⟩
  · have htokens : AreConstant (tokenize source) := by
      refine AreConstant.of_withoutOffsets ?_
      rw [withoutOffsets_tokenize, hsource]
      exact e.areConstant_text
    have hvalue := congrArg Prod.fst (withoutOffsets_compute_withVariables hs source).1
    refine ⟨hvalue.trans ?_, ?_⟩
    · rw [hsource, e.areConstant_text.lineWithin]
      exact Expression.finalValue_text (keepsPlain_resolveNames _) he _
    · rw [result_compute_eq_lineWithin hs, htokens.lineWithin]
      rfl

/-! ### Integers -/

/-- The literal that a natural number is written as. -/
def Literal.ofNat (n : Nat) : Literal where
  digits := Nat.toDigits 10 n
  nonempty := Nat.toDigits_ne_nil
  ascii := fun _ hc => Nat.isDigit_of_mem_toDigits (by decide) (by decide) hc

namespace Literal

/-- A literal's value is what its digits are read as. -/
theorem value_eq_ofDigitChars (l : Literal) : l.value = Nat.ofDigitChars 10 l.digits 0 := by
  rw [← digitsValue_literal, Decimal.digitsValue, List.foldl_map, Nat.ofDigitChars_eq_foldl]
  simp only [Nat.mul_comm]

theorem value_ofNat (n : Nat) : (ofNat n).value = n := by
  rw [value_eq_ofDigitChars]
  exact Nat.ofDigitChars_ten_toDigits

theorem isReadable_ofNat_iff {n : Nat} : (ofNat n).IsReadable ↔ n < 10 ^ Decimal.digitLimit :=
  Nat.length_toDigits_le_iff (by decide) (by decide)

end Literal

/-- The expression that an integer is written as. -/
def Expression.ofInt : Int → Expression Literal .sum
  | .ofNat n => .term (.single (.plain (.atom (.ofNat n))))
  | .negSucc n => .term (.single (.negated (.atom (.ofNat (n + 1)))))

namespace Expression

theorem text_ofInt (v : Int) : (ofInt v).text = (toString v).toList := by
  cases v with
  | ofNat n =>
    have htext : (toString (Int.ofNat n)).toList = Nat.toDigits 10 n := Nat.toList_repr
    rw [htext]
    exact List.append_nil _
  | negSucc n =>
    have htext : (toString (Int.negSucc n)).toList = '-' :: Nat.toDigits 10 (n + 1) := by
      have hminus : toString (Int.negSucc n) = "-" ++ Nat.repr (n + 1) := rfl
      rw [hminus, String.toList_append, Nat.toList_repr]
      rfl
    rw [htext]
    exact congrArg ('-' :: ·) (List.append_nil _)

theorem isReadable_ofInt_iff {v : Int} :
    (ofInt v).IsReadable ↔ v.natAbs < 10 ^ Decimal.digitLimit := by
  cases v with
  | ofNat n =>
    have habs : (Int.ofNat n).natAbs = n := rfl
    rw [habs, ← Literal.isReadable_ofNat_iff]
    simp [ofInt, IsReadable, lexemes]
  | negSucc n =>
    rw [Int.natAbs_negSucc, ← Literal.isReadable_ofNat_iff]
    simp [ofInt, IsReadable, lexemes]

theorem outcome_ofInt (v : Int) : (ofInt v).read.outcome = .ok (.int v) := by
  cases v with
  | ofNat n =>
    have houtcome : (ofInt (.ofNat n)).read.outcome = .ok (.int (Literal.ofNat n).value) := rfl
    rw [houtcome, Literal.value_ofNat]
    rfl
  | negSucc n =>
    have houtcome : (ofInt (.negSucc n)).read.outcome =
      .ok (.int (-(Literal.ofNat (n + 1)).value)) := rfl
    rw [houtcome, Literal.value_ofNat]
    rfl

end Expression

theorem solidChars_toString (v : Int) : solidChars (toString v) = (Expression.ofInt v).text := by
  have hsolid : ∀ c ∈ (toString v).toList, (!Text.isBlank c) = true := by
    intro c hc
    rw [← Expression.text_ofInt] at hc
    rw [Expression.isBlank_of_mem_text hc]
    rfl
  rw [solidChars, List.filter_eq_self.mpr hsolid, Expression.text_ofInt]

/-- Whatever its environment, a session evaluates an integer that is written out to itself, and
stays as it is. -/
theorem result_compute_toString {s : Session}
    (hs : s.pipeline = .standard ∨ s.pipeline = Pipeline.standard.withVariables) {v : Int}
    (hv : v.natAbs < 10 ^ Decimal.digitLimit) :
    (Session.compute (toString v)).result s = (.ok (.int v), s) := by
  obtain ⟨hvalue, hafter⟩ := withoutOffsets_compute_text hs
    (Expression.isReadable_ofInt_iff.mpr hv) (solidChars_toString v)
  rw [Expression.outcome_ofInt] at hvalue
  exact Prod.ext (eq_ok_of_withoutOffsets hvalue) hafter

/-- An integer is printed in decimal, unless it has too many digits. -/
theorem Printer.print_int (p : Printer) (v : Int) :
    p.print (.number (.int v)) =
      if v.natAbs < 10 ^ Decimal.digitLimit then .ok (toString v) else .error .unwritable := by
  simp [Printer.print, Printer.isPrintable, Datum.isWritable, Number.isWritable, Printer.textOf,
    Datum.describe, Number.text]

theorem Printer.print_int_eq_ok_iff (p : Printer) {v : Int} {text : String} :
    p.print (.number (.int v)) = .ok text ↔
      v.natAbs < 10 ^ Decimal.digitLimit ∧ toString v = text := by
  rw [p.print_int]
  split <;> simp_all

/-- Printing an integer and evaluating it are inverse, with variables or without: whatever its
environment, a session evaluates an integer of at most 4300 digits, as it is printed, to the integer
itself, and stays as it is.  So a result that is an integer comes back when it is printed and
entered again, in the session that has come to it. -/
theorem compute_print {s : Session}
    (hs : s.pipeline = .standard ∨ s.pipeline = Pipeline.standard.withVariables) (p : Printer) :
    (∀ v : Int, (Nat.digits 10 v.natAbs).length ≤ Decimal.digitLimit →
      ∃ text, p.print (.number (.int v)) = .ok text ∧
        (Session.compute text).result s = (.ok (.int v), s)) ∧
      ∀ source v after text, (Session.compute source).result s = (.ok (.int v), after) →
        p.print (.number (.int v)) = .ok text →
        (Session.compute text).result after = (.ok (.int v), after) := by
  refine ⟨fun v hv => ?_, fun source v after text hcompute hprint => ?_⟩
  · have hv := (Nat.digits_length_le_iff (by decide) v.natAbs).mp hv
    exact ⟨toString v, by rw [p.print_int, if_pos hv], result_compute_toString hs hv⟩
  · obtain ⟨hv, rfl⟩ := p.print_int_eq_ok_iff.mp hprint
    have hpipeline := pipeline_compute source s
    rw [hcompute] at hpipeline
    exact result_compute_toString (hpipeline ▸ hs) hv

/-- The line `set(x,4)-124` binds a letter and comes to `-120`, which is printed as such. -/
theorem compute_print_difference :
    let s : Session := .startWith {} Pipeline.standard.withVariables .empty
    let after : Session := { s with env := .ofList [("x", .char '4' (some 6))] }
    (Session.compute "set(x,4)-124").result s = (.ok (.int (-120)), after) ∧
      ({} : Printer).print (.number (.int (-120))) = .ok "-120" ∧
      (Session.compute "-120").result after = (.ok (.int (-120)), after) ∧
      (Session.compute "0").result after = (.ok (.int 0), after) := by
  intro s after
  have hline : lineWithin ((solidChars "set(x,4)-124").length + 249) (tokenize "set(x,4)-124")
      s.env = (.ok (.int (-120)), .ofList [("x", .char '4' (some 6))]) := by decide +kernel
  have hcompute : (Session.compute "set(x,4)-124").result s = (.ok (.int (-120)), after) := by
    rw [result_compute_eq_lineWithin rfl, hline]
    rfl
  have hlimit : 10 ^ 3 ≤ 10 ^ Decimal.digitLimit := Nat.pow_le_pow_right (by decide) (by decide)
  have hprint : ∀ v : Int, v.natAbs < 10 ^ 3 →
      ({} : Printer).print (.number (.int v)) = .ok (toString v) := by
    intro v hv
    rw [Printer.print_int, if_pos (hv.trans_le hlimit)]
  obtain ⟨text, htext, hzero⟩ := (compute_print (s := after) (.inr rfl) {}).1 0 (by decide)
  obtain rfl : "0" = text := Except.ok.inj ((hprint 0 (by decide)).symm.trans htext)
  have hback := (compute_print (s := s) (.inr rfl) {}).2 "set(x,4)-124" (-120) after "-120"
    hcompute (hprint _ (by decide))
  exact ⟨hcompute, hprint _ (by decide), hback, hzero⟩

end Calculator
