import Calculator.Proofs.Expression

/-! Balance.  A text is balanced when its parentheses match, and a group is the balanced text
between two parentheses that match. -/

namespace Calculator

/-- How a character changes the number of groups that are open. -/
def parenWeight (c : Char) : Int := if c = '(' then 1 else if c = ')' then -1 else 0

/-- The number of groups that a text opens and does not close. -/
def height (cs : List Char) : Int := (cs.map parenWeight).sum

@[simp] theorem height_nil : height [] = 0 := rfl

@[simp] theorem height_cons (c : Char) (cs : List Char) :
    height (c :: cs) = parenWeight c + height cs := by simp [height]

@[simp] theorem height_append (cs ds : List Char) : height (cs ++ ds) = height cs + height ds := by
  simp [height]

@[simp] theorem parenWeight_open : parenWeight '(' = 1 := rfl

@[simp] theorem parenWeight_close : parenWeight ')' = -1 := rfl

theorem parenWeight_of_ne {c : Char} (ho : c ≠ '(') (hc : c ≠ ')') : parenWeight c = 0 := by
  simp [parenWeight, ho, hc]

/-- As many groups are closed as are opened, and at no point more. -/
structure Balanced (cs : List Char) : Prop where
  total : height cs = 0
  nonneg : ∀ p q, cs = p ++ q → 0 ≤ height p

namespace Balanced

variable {cs ds : List Char}

theorem nil : Balanced [] := by
  refine ⟨rfl, fun p q h => ?_⟩
  obtain ⟨rfl, -⟩ := List.append_eq_nil_iff.mp h.symm
  exact le_refl 0

theorem append (h : Balanced cs) (h' : Balanced ds) : Balanced (cs ++ ds) := by
  refine ⟨by rw [height_append, h.total, h'.total]; rfl, fun p q hp => ?_⟩
  rcases List.append_eq_append_iff.mp hp with ⟨r, rfl, hr⟩ | ⟨r, hr, -⟩
  · rw [height_append, h.total]
    have hprefix := h'.nonneg r q hr
    omega
  · exact h.nonneg p r hr

theorem single {c : Char} (ho : c ≠ '(') (hc : c ≠ ')') : Balanced [c] := by
  have hweight := parenWeight_of_ne ho hc
  refine ⟨by rw [height_cons, hweight]; rfl, fun p q hp => ?_⟩
  rcases List.cons_eq_append_iff.mp hp with ⟨rfl, -⟩ | ⟨r, rfl, hr⟩
  · exact le_refl 0
  · obtain ⟨rfl, -⟩ := List.append_eq_nil_iff.mp hr.symm
    rw [height_cons, hweight]
    rfl

theorem of_no_parens (h : ∀ c ∈ cs, c ≠ '(' ∧ c ≠ ')') : Balanced cs := by
  induction cs with
  | nil => exact .nil
  | cons c cs ih =>
    have hc := h c (by simp)
    exact (single hc.1 hc.2).append (ih fun d hd => h d (List.mem_cons_of_mem c hd))

theorem group (h : Balanced cs) : Balanced ('(' :: (cs ++ [')'])) := by
  refine ⟨by simp [h.total], fun p q hp => ?_⟩
  rcases List.cons_eq_append_iff.mp hp with ⟨rfl, -⟩ | ⟨r, rfl, hr⟩
  · exact le_refl 0
  · rw [height_cons, parenWeight_open]
    rcases List.append_eq_append_iff.mp hr with ⟨s, rfl, hs⟩ | ⟨s, hs, -⟩
    · rcases List.cons_eq_append_iff.mp hs with ⟨rfl, -⟩ | ⟨u, rfl, hu⟩
      · rw [List.append_nil, h.total]
        decide
      · obtain ⟨rfl, -⟩ := List.append_eq_nil_iff.mp hu.symm
        rw [height_append, h.total]
        decide
    · have hprefix := h.nonneg r s hs
      omega

theorem iff_take : Balanced cs ↔ height cs = 0 ∧ ∀ k ≤ cs.length, 0 ≤ height (cs.take k) := by
  constructor
  · exact fun h => ⟨h.total, fun k _ => h.nonneg _ _ (List.take_append_drop k cs).symm⟩
  · rintro ⟨htotal, hnonneg⟩
    refine ⟨htotal, ?_⟩
    rintro p q rfl
    have hprefix := hnonneg p.length (by simp)
    rwa [List.take_left' rfl] at hprefix

instance : DecidablePred Balanced := fun _ => decidable_of_iff _ iff_take.symm

/-- The parenthesis that closes a group is determined by the one that opens it. -/
theorem eq_of_close (h : Balanced cs) (h' : Balanced ds) {rest rest' : List Char}
    (heq : cs ++ ')' :: rest = ds ++ ')' :: rest') : cs = ds ∧ rest = rest' := by
  have hshort : ∀ {cs r : List Char}, Balanced cs → Balanced (cs ++ ')' :: r) → False := by
    intro cs r hcs hlong
    have hprefix := hlong.nonneg (cs ++ [')']) r (by simp)
    rw [height_append, hcs.total] at hprefix
    exact absurd hprefix (by decide)
  rcases List.append_eq_append_iff.mp heq with ⟨r, rfl, hr⟩ | ⟨r, rfl, hr⟩
  · rcases List.cons_eq_append_iff.mp hr with ⟨rfl, hrest⟩ | ⟨s, rfl, -⟩
    · obtain ⟨-, rfl⟩ := List.cons.inj hrest
      exact ⟨by simp, rfl⟩
    · exact (hshort h h').elim
  · rcases List.cons_eq_append_iff.mp hr with ⟨rfl, hrest⟩ | ⟨s, rfl, -⟩
    · obtain ⟨-, rfl⟩ := List.cons.inj hrest
      exact ⟨by simp, rfl⟩
    · exact (hshort h' h).elim

end Balanced

/-- A group of a text: what stands between two parentheses that match. -/
def IsGroup (w cs : List Char) : Prop :=
  Balanced w ∧ ∃ before after, cs = before ++ '(' :: (w ++ ')' :: after)

/-- A group does not reach across a sign between two balanced texts. -/
theorem IsGroup.of_append_cons {w cs ds : List Char} {c : Char} (hcs : Balanced cs)
    (ho : c ≠ '(') (hc : c ≠ ')') (h : IsGroup w (cs ++ c :: ds)) :
    IsGroup w cs ∨ IsGroup w ds := by
  obtain ⟨hw, before, after, heq⟩ := h
  rcases List.append_eq_append_iff.mp heq with ⟨r, rfl, hr⟩ | ⟨r, rfl, hr⟩
  · -- the group opens behind the sign
    rcases List.cons_eq_append_iff.mp hr with ⟨-, hr⟩ | ⟨s, -, hs⟩
    · exact absurd (List.cons.inj hr).1.symm ho
    · exact .inr ⟨hw, s, after, hs⟩
  · rcases List.cons_eq_append_iff.mp hr with ⟨-, hr⟩ | ⟨s, rfl, hs⟩
    · exact absurd (List.cons.inj hr).1 ho
    · rcases List.append_eq_append_iff.mp hs with ⟨u, rfl, hu⟩ | ⟨u, rfl, -⟩
      · -- it closes before the sign
        rcases List.cons_eq_append_iff.mp hu with ⟨-, hu⟩ | ⟨v, rfl, -⟩
        · exact absurd (List.cons.inj hu).1 hc
        · exact .inl ⟨hw, before, v, by simp⟩
      · -- or it would be open at the sign, where nothing is
        have hbefore := hcs.nonneg before ('(' :: s) rfl
        have hinside := hw.nonneg s u rfl
        have htotal := hcs.total
        simp only [height_append, height_cons, parenWeight_open] at htotal
        omega

theorem IsGroup.of_group {w cs : List Char} (hcs : Balanced cs)
    (h : IsGroup w ('(' :: (cs ++ [')']))) : w = cs ∨ IsGroup w cs := by
  obtain ⟨hw, before, after, heq⟩ := h
  rcases List.cons_eq_append_iff.mp heq with ⟨rfl, hrest⟩ | ⟨before, rfl, hrest⟩
  · obtain ⟨-, hrest⟩ := List.cons.inj hrest
    exact .inl (hw.eq_of_close hcs hrest).1
  · right
    rcases List.eq_nil_or_concat after with rfl | ⟨after, c, rfl⟩
    · -- the last parenthesis closes the first one
      have hinit : cs = before ++ '(' :: w := by
        have hlast : cs ++ [')'] = (before ++ '(' :: w) ++ [')'] := by simpa using hrest
        exact (List.append_inj' hlast rfl).1
      have hbefore := hcs.nonneg before ('(' :: w) hinit
      have htotal := hcs.total
      rw [hinit, height_append, height_cons, parenWeight_open, hw.total] at htotal
      omega
    · have hinit : cs = before ++ '(' :: (w ++ ')' :: after) := by
        have hlast : cs ++ [')'] = (before ++ '(' :: (w ++ ')' :: after)) ++ [c] := by
          simpa using hrest
        exact (List.append_inj' hlast rfl).1
      exact ⟨hw, before, after, hinit⟩

namespace Expression

variable {l : Level}

@[simp] theorem text_atom (a : Literal) : (atom a).text = a.digits := by
  simp [text, lexemes]

@[simp] theorem text_group (e : Expression Literal .sum) :
    (group e).text = '(' :: (e.text ++ [')']) := by
  simp [text, lexemes]

@[simp] theorem text_plain (p : Expression Literal .primary) : (plain p).text = p.text := rfl

@[simp] theorem text_negated (p : Expression Literal .primary) :
    (negated p).text = '-' :: p.text := rfl

@[simp] theorem text_single (f : Expression Literal .factor) : (single f).text = f.text := rfl

@[simp] theorem text_scaled (t : Expression Literal .product) (op : Scaling)
    (f : Expression Literal .factor) : (scaled t op f).text = t.text ++ op.char :: f.text := by
  simp [text, lexemes]

@[simp] theorem text_term (t : Expression Literal .product) : (term t).text = t.text := rfl

@[simp] theorem text_added (e : Expression Literal .sum) (op : Addition)
    (t : Expression Literal .product) : (added e op t).text = e.text ++ op.char :: t.text := by
  simp [text, lexemes]

end Expression

theorem Scaling.char_ne_paren (op : Scaling) : op.char ≠ '(' ∧ op.char ≠ ')' := by
  cases op <;> decide

theorem Addition.char_ne_paren (op : Addition) : op.char ≠ '(' ∧ op.char ≠ ')' := by
  cases op <;> decide

theorem Literal.ne_paren {a : Literal} {c : Char} (hc : c ∈ a.digits) : c ≠ '(' ∧ c ≠ ')' :=
  ⟨ne_of_isAsciiDigit (a.ascii c hc) (by decide), ne_of_isAsciiDigit (a.ascii c hc) (by decide)⟩

theorem balanced_lexeme {x : Lexeme Literal} (ho : x ≠ .sign '(') (hc : x ≠ .sign ')') :
    Balanced (lexemeText [x]) := by
  cases x with
  | sign c => exact .single (fun h => ho (h ▸ rfl)) fun h => hc (h ▸ rfl)
  | atom a =>
    refine .of_no_parens fun c hc => ?_
    have hc : c ∈ a.digits := by simpa [lexemeText] using hc
    exact a.ne_paren hc

theorem Expression.balanced_text {l : Level} (e : Expression Literal l) : Balanced e.text := by
  induction e with
  | atom a => rw [text_atom]; exact .of_no_parens fun c hc => a.ne_paren hc
  | group e ih => rw [text_group]; exact ih.group
  | plain p ih => exact ih
  | negated p ih =>
    rw [text_negated]
    exact (Balanced.single (by decide) (by decide)).append ih
  | single f ih => exact ih
  | scaled t op f iht ihf =>
    rw [text_scaled]
    exact iht.append ((Balanced.single op.char_ne_paren.1 op.char_ne_paren.2).append ihf)
  | term t ih => exact ih
  | added e op t ihe iht =>
    rw [text_added]
    exact ihe.append ((Balanced.single op.char_ne_paren.1 op.char_ne_paren.2).append iht)

theorem Expression.text_ne_nil {l : Level} (e : Expression Literal l) : e.text ≠ [] := by
  induction e with
  | atom a => rw [text_atom]; exact a.nonempty
  | plain p ih => exact ih
  | single f ih => exact ih
  | term t ih => exact ih
  | _ => simp

end Calculator
