import Calculator.Proofs.Bindings
import Calculator.Proofs.Reduction

/-! Values of lines.  A line in plain arithmetic that spells an expression, with blanks wherever one
likes, comes to the value of the expression; when a divisor in it is zero, the line fails as a
division by zero. -/

namespace Calculator

/-- The outcome of a line that stands for an expression in which nothing overflows: the value of the
expression, or a division by zero at one of its division signs. -/
structure Expression.Decides {l : Level} (e : Expression Number l) (x : Except Failure Number) :
    Prop where
  value : ∀ n, e.value = some n → x = .ok n
  zeroDivisor : e.HasZeroDivisor → ∃ p, x = .error (.at .zeroDivisor (.char '/' p))
  total : e.value.isSome = true ∨ e.HasZeroDivisor

/-- Whatever fails at some character without its offset does so with it. -/
theorem exists_of_withoutOffsets_at {x : Except Failure Number} {cause : Cause} {c : Char}
    (h : Except.withoutOffsets id x = .error (.at cause (.sign c))) :
    ∃ p, x = .error (.at cause (.char c p)) := by
  cases x with
  | ok m => cases h
  | error f =>
    have hf : f.withoutOffset = .at cause (.sign c) := Except.error.inj h
    cases f with
    | evaluation e =>
      obtain ⟨cause', token⟩ := e
      have he := EvaluationError.mk.inj (Failure.evaluation.inj hf)
      obtain ⟨rfl, ht⟩ := he
      obtain ⟨t, rfl, hsign⟩ := Option.map_eq_some_iff.mp ht
      cases t with
      | char d p =>
        obtain ⟨rfl, -⟩ := Token.char.inj hsign
        exact ⟨p, rfl⟩
      | _ => cases hsign
    | _ => cases hf

/-- What is described by an expression without overflow is decided by it. -/
theorem Expression.Describes.decides {l : Level} {e : Expression Number l}
    {x : Except Failure Number} (h : e.Describes (Except.withoutOffsets id x))
    (ho : ¬e.Overflows) : e.Decides x := by
  cases hx : Except.withoutOffsets id x with
  | ok m =>
    rw [hx] at h
    have hm : e.value = some m := h
    refine ⟨fun n hn => ?_, fun hz => ?_, ?_⟩
    · rw [hm] at hn
      exact eq_ok_of_withoutOffsets (hx.trans (congrArg _ (Option.some.inj hn)))
    · rw [value_of_hasZeroDivisor hz] at hm
      cases hm
    · exact .inl (by rw [hm]; rfl)
  | error f =>
    rw [hx] at h
    rcases h with ⟨rfl, hz⟩ | ⟨-, ho'⟩
    · refine ⟨fun n hn => ?_, fun _ => exists_of_withoutOffsets_at hx, .inr hz⟩
      rw [value_of_hasZeroDivisor hz] at hn
      cases hn
    · exact absurd ho' ho

/-! ### Expressions of literals -/

theorem readNumbers_expression {α : Type} {l : Level} {spelled : α → List Token}
    {number : α → Except Failure Number} (e : Expression α l)
    (h : ∀ a, .atom a ∈ e.lexemes → StandFor (spelled a) (number a)) :
    readNumbers (e.lexemes.flatMap (Lexeme.spell Token.sign spelled)) =
      (do let v ← e.mapM number; .ok v.tokens) := by
  have hseparated := e.separated_lexemes.mono fun _ => Expression.isNoDigit_of_mem_signs
  rw [readNumbers_lexemes hseparated h, mapM_read, e.mapM_lexemes, bind_assoc]
  rfl

namespace Expression

variable {l : Level}

def read (e : Expression Literal l) : Expression Number l := e.map Literal.number

/-- No literal of the expression is too long to be read. -/
def IsReadable (e : Expression Literal l) : Prop := ∀ a, .atom a ∈ e.lexemes → a.IsReadable

theorem map_sign_text (e : Expression Literal l) :
    e.text.map Token.sign =
      e.lexemes.flatMap (Lexeme.spell Token.sign fun a => a.digits.map Token.sign) := by
  rw [text, List.map_flatMap]
  congr 1
  funext x
  cases x <;> rfl

theorem readNumbers_text {e : Expression Literal l} (h : e.IsReadable) :
    readNumbers (e.text.map Token.sign) = .ok e.read.tokens := by
  have hread : e.mapM (fun a => readText (String.ofList a.digits)) = .ok e.read :=
    mapM_eq_ok fun a ha => by rw [readText_literal, if_pos (h a ha)]
  rw [map_sign_text, readNumbers_expression e fun a _ => standFor_digits a.nonempty a.ascii, hread]
  rfl

end Expression

/-- A line of plain arithmetic that spells an expression comes to the value of the expression, and
fails as a division by zero when a divisor is zero. -/
theorem compute_expression {s : Session} (hs : s.pipeline = .standard)
    (e : Expression Literal .sum) (he : e.IsReadable) (ho : ¬e.read.Overflows) {source : String}
    (hsource : solidChars source = e.text) :
    e.read.Decides ((Session.compute source).result s).1 ∧
      ((Session.compute source).result s).2 = s := by
  obtain ⟨hvalue, hs'⟩ := withoutOffsets_compute_standard hs source
  refine ⟨Expression.Describes.decides ?_ ho, hs'⟩
  have hrun : evaluateWithin id (e.text.length + 250) (e.text.map Token.sign) =
      (do let n ← e.read.outcome; .ok [.number n]) :=
    arithmetic_eq_outcome (evaluateWithin_chain keepsPlain_id _) (Expression.readNumbers_text he)
  rw [hvalue, hsource, hrun, bind_assoc]
  exact (bind_pure e.read.outcome).symm ▸ e.read.describes_outcome

/-- The expression `-(2+4)/3`. -/
def negatedQuotient : Expression Literal .sum :=
  .term (.scaled (.single (.negated (.group (.added (.term (.single (.plain (.atom (.ofDigit '2'
    rfl))))) .plus (.single (.plain (.atom (.ofDigit '4' rfl)))))))) .dividedBy
    (.plain (.atom (.ofDigit '3' rfl))))

theorem compute_negatedQuotient :
    (Session.compute "-(2 + 4) / 3").result (.startWith {} .standard .empty) =
      (.ok (.int (-2)), .startWith {} .standard .empty) := by
  have hread : negatedQuotient.IsReadable := by
    intro a ha
    simp only [negatedQuotient, Expression.lexemes] at ha
    simp at ha
    rcases ha with rfl | rfl | rfl <;> decide
  have hoverflows : ¬negatedQuotient.read.Overflows := by
    simp only [negatedQuotient, Expression.read, Expression.map, Expression.Overflows,
      Expression.value, false_or]
    rintro (⟨a, b, ha, hb, ho⟩ | ⟨a, b, ha, hb, -, ho⟩)
    · obtain rfl := Option.some.inj ha
      obtain rfl := Option.some.inj hb
      cases ho
    · obtain rfl := Option.some.inj ha
      obtain rfl := Option.some.inj hb
      cases ho
  have hsource : solidChars "-(2 + 4) / 3" = negatedQuotient.text := by decide
  have h := compute_expression (s := .startWith {} .standard .empty) rfl negatedQuotient hread
    hoverflows
    hsource
  exact Prod.ext (h.1.value (.int (-2)) (by rfl)) h.2

end Calculator
