import Mathlib.Data.List.Forall2
import Calculator.Proofs.Nesting
import Calculator.Proofs.Values

/-! Well-formed lines.  A line that has a value need not be an expression, since what the run of a
group leaves takes the place of the group even when it is no number.  It is one exactly when each of
its groups has a value as a line of its own. -/

namespace Calculator

/-! ### Pieces -/

/-- What the runs of groups make of lexemes: a lexeme becomes its token, and an expression in
parentheses its value. -/
inductive Piece : List (Lexeme Literal) → Token → Prop
  | lexeme {x : Lexeme Literal} : x ≠ .sign '(' → x ≠ .sign ')' → Piece [x] x.readToken
  | group {e : Expression Literal .sum} {n : Number} : e.read.outcome = .ok n →
      Piece (.sign '(' :: (e.lexemes ++ [.sign ')'])) (.number n)

/-- A piece, or a parenthesis that has not been closed yet. -/
def IsItem (xs : List (Lexeme Literal)) (t : Token) : Prop :=
  Piece xs t ∨ xs = [.sign '('] ∧ t = .sign '('

theorem Piece.noOpen {xs : List (Lexeme Literal)} {t : Token} (h : Piece xs t) :
    t.isChar '(' = false := by
  cases h with
  | lexeme ho _ =>
    rw [← Bool.not_eq_true]
    exact fun h => ho (readToken_isChar h)
  | group => rfl

/-- Only the parenthesis itself is an item that is no piece. -/
theorem IsItem.piece {xs : List (Lexeme Literal)} {t : Token} (h : IsItem xs t)
    (ht : t.isChar '(' = false) : Piece xs t := by
  rcases h with h | ⟨-, rfl⟩
  · exact h
  · cases ht

theorem IsItem.eq_open {xs : List (Lexeme Literal)} {t : Token} (h : IsItem xs t)
    (ht : t.isChar '(' = true) : xs = [.sign '('] := by
  rcases h with h | ⟨h, -⟩
  · rw [h.noOpen] at ht
    cases ht
  · exact h

theorem pieces_of_items {items : List (List (Lexeme Literal))} {tokens : List Token}
    (h : List.Forall₂ IsItem items tokens) (ht : ∀ t ∈ tokens, t.isChar '(' = false) :
    List.Forall₂ Piece items tokens := by
  induction h with
  | nil => exact .nil
  | cons hi _ ih =>
    exact .cons (hi.piece (ht _ (by simp))) (ih fun t hmem => ht t (List.mem_cons_of_mem _ hmem))

theorem Piece.balanced {xs : List (Lexeme Literal)} {t : Token} (h : Piece xs t) :
    Balanced (lexemeText xs) := by
  cases h with
  | lexeme ho hc => exact balanced_lexeme ho hc
  | @group e n _ =>
    have htext : lexemeText (.sign '(' :: (e.lexemes ++ [.sign ')'])) =
        '(' :: (e.text ++ [')']) := by
      rw [lexemeText_sign, lexemeText_append]
      rfl
    rw [htext]
    exact e.balanced_text.group

theorem balanced_pieces {pieces : List (List (Lexeme Literal))} {tokens : List Token}
    (h : List.Forall₂ Piece pieces tokens) : Balanced (lexemeText pieces.flatten) := by
  induction h with
  | nil => exact .nil
  | cons hp _ ih =>
    rw [List.flatten_cons, lexemeText_append]
    exact hp.balanced.append ih

/-! ### Chains of pieces -/

namespace Expression

variable {α : Type}

/-- The sum with one more operator and factor behind it. -/
def extend : Expression α .sum → Operator → Expression α .factor → Expression α .sum
  | term t, .scaling op, f => term (scaled t op f)
  | added e op' t, .scaling op, f => added e op' (scaled t op f)
  | e, .addition op, f => added e op (single f)

theorem lexemes_extend (e : Expression α .sum) (op : Operator) (f : Expression α .factor) :
    (e.extend op f).lexemes = e.lexemes ++ .sign op.char :: f.lexemes := by
  cases op with
  | addition op => cases e <;> rfl
  | scaling op => cases e <;> simp [extend, lexemes]

end Expression

theorem Piece.primary {xs : List (Lexeme Literal)} {n : Number} (h : Piece xs (.number n)) :
    ∃ p : Expression Literal .primary, p.lexemes = xs := by
  generalize ht : Token.number n = t at h
  cases h with
  | @lexeme x _ _ =>
    cases x with
    | sign c => cases ht
    | atom a => exact ⟨.atom a, rfl⟩
  | @group e _ _ => exact ⟨.group e, rfl⟩

theorem Piece.sign {xs : List (Lexeme Literal)} {c : Char} (h : Piece xs (.sign c)) :
    xs = [.sign c] := by
  generalize ht : Token.sign c = t at h
  cases h with
  | @lexeme x _ _ =>
    cases x with
    | sign d =>
      obtain ⟨rfl, -⟩ := Token.char.inj ht
      rfl
    | atom a => cases ht
  | group => cases ht

theorem exists_factor {pieces : List (List (Lexeme Literal))} {s : Signed} {rest : List Token}
    (h : List.Forall₂ Piece pieces (s.tokens ++ rest)) :
    ∃ (f : Expression Literal .factor) (pieces' : List (List (Lexeme Literal))),
      pieces.flatten = f.lexemes ++ pieces'.flatten ∧ List.Forall₂ Piece pieces' rest := by
  obtain ⟨negative, n⟩ := s
  cases negative with
  | false =>
    obtain ⟨xs, pieces', hp, hrest, rfl⟩ := List.forall₂_cons_right_iff.mp h
    obtain ⟨p, rfl⟩ := hp.primary
    exact ⟨.plain p, pieces', rfl, hrest⟩
  | true =>
    obtain ⟨minus, pieces', hminus, hrest, rfl⟩ := List.forall₂_cons_right_iff.mp h
    obtain ⟨xs, pieces'', hp, hrest', rfl⟩ := List.forall₂_cons_right_iff.mp hrest
    obtain rfl := hminus.sign
    obtain ⟨p, rfl⟩ := hp.primary
    exact ⟨.negated p, pieces'', rfl, hrest'⟩

theorem exists_extended {pieces : List (List (Lexeme Literal))}
    {rest : List (Operator × Signed)} (h : List.Forall₂ Piece pieces (Chain.restTokens rest))
    (e : Expression Literal .sum) :
    ∃ e' : Expression Literal .sum, e'.lexemes = e.lexemes ++ pieces.flatten := by
  induction rest generalizing pieces e with
  | nil =>
    obtain rfl := List.forall₂_nil_right_iff.mp h
    exact ⟨e, by simp⟩
  | cons s rest ih =>
    obtain ⟨op, pieces', hop, hrest, rfl⟩ := List.forall₂_cons_right_iff.mp h
    obtain rfl := hop.sign
    obtain ⟨f, pieces'', hf, hrest⟩ := exists_factor hrest
    obtain ⟨e', he'⟩ := ih hrest (e.extend s.1 f)
    refine ⟨e', ?_⟩
    rw [he', Expression.lexemes_extend, List.flatten_cons, hf]
    simp

/-- Pieces that are reduced to a number are an expression. -/
theorem exists_expression_of_reduce {pieces : List (List (Lexeme Literal))} {tokens : List Token}
    (h : List.Forall₂ Piece pieces tokens) {n : Number} (hr : reduce tokens = .ok [.number n]) :
    ∃ e : Expression Literal .sum, e.lexemes = pieces.flatten := by
  obtain ⟨c, hc⟩ := exists_chain_of_reduce hr
  have hwithout : tokens.map Token.withoutOffset = tokens := by
    clear hr hc
    induction h with
    | nil => rfl
    | @cons xs t _ _ hp _ ih =>
      have ht : t.withoutOffset = t := by
        cases hp with
        | @lexeme x _ _ => cases x <;> rfl
        | group => rfl
      rw [List.map_cons, ht, ih]
  rw [hwithout] at hc
  subst hc
  obtain ⟨f, pieces', hf, hrest⟩ := exists_factor h
  obtain ⟨e, he⟩ := exists_extended hrest (.term (.single f))
  exact ⟨e, he.trans hf.symm⟩

/-! ### The run over groups that have values -/

section Groups

variable {inner : List Token → Except Failure (List Token)}

/-- The run over pieces leaves their tokens. -/
theorem groups_pieces
    (hinner : ∀ c : Chain, inner c.tokens = (do let n ← c.reading; .ok [.number n]))
    {pieces : List (List (Lexeme Literal))} {tokens : List Token}
    (h : List.Forall₂ Piece pieces tokens) (output rest : List Token) :
    (groupPlan output (pieces.flatten.map Lexeme.readToken ++ rest)).carryOut inner =
      (groupPlan (tokens.reverse ++ output) rest).carryOut inner := by
  induction h generalizing output with
  | nil => rfl
  | @cons xs t pieces tokens hp _ ih =>
    have hstep : ∀ output rest,
        (groupPlan output (xs.map Lexeme.readToken ++ rest)).carryOut inner =
          (groupPlan (t :: output) rest).carryOut inner := by
      intro output rest
      cases hp with
      | @lexeme x _ hc =>
        have hclose : x.readToken.isChar ')' = false := by
          rw [← Bool.not_eq_true]
          exact fun h => hc (readToken_isChar h)
        rw [List.map_singleton, List.cons_append, groupPlan, if_neg (by simp [hclose])]
        rfl
      | @group e n hn =>
        have htokens : (Lexeme.sign '(' :: (e.lexemes ++ [.sign ')'])).map Lexeme.readToken ++
            rest = (Expression.group e).read.tokens ++ rest := by
          rw [Expression.tokens, Expression.read, Expression.lexemes_map, List.map_map]
          rfl
        have hflat : (Expression.group e).read.flat = .ok (.ofNumber n) := by
          obtain ⟨c, hc, hcn⟩ := Except.bind_eq_ok_iff.mp hn
          change (do let c ← e.read.flat; let m ← c.reading; .ok (Chain.ofNumber m)) = _
          rw [hc, Except.ok_bind, hcn, Except.ok_bind]
        rw [htokens, groups_tokens hinner, hflat]
        rfl
    rw [List.flatten_cons, List.map_append, List.append_assoc, hstep, ih]
    simp

theorem tokens_read (e : Expression Literal .sum) :
    e.read.tokens = e.lexemes.map Lexeme.readToken := by
  rw [Expression.tokens, Expression.read, Expression.lexemes_map, List.map_map]
  rfl

/-- Pieces whose text has a value are an expression with this value, and they are reduced to it. -/
theorem exists_expression_of_evaluateWithin {pieces : List (List (Lexeme Literal))}
    {tokens : List Token} (h : List.Forall₂ Piece pieces tokens)
    (hL : Separated IsNoDigit pieces.flatten) (hr : ∀ a, .atom a ∈ pieces.flatten → a.IsReadable)
    {depth : Nat} {n : Number}
    (hn : evaluateWithin id (depth + 2) ((lexemeText pieces.flatten).map Token.sign) =
      .ok [.number n]) :
    reduce tokens = .ok [.number n] ∧
      ∃ e : Expression Literal .sum, e.lexemes = pieces.flatten ∧ e.read.outcome = .ok n := by
  have hchain := evaluateWithin_chain keepsPlain_id depth
  have hread := readNumbers_lexemeText hL hr
  have hreduce : reduce tokens = .ok [.number n] := by
    have hgroups := groups_pieces hchain h [] []
    rw [List.append_nil, List.append_nil, groupPlan, Plan.carryOut_done,
      List.reverse_reverse] at hgroups
    rw [evaluateWithin, id, arithmetic, hread, Except.ok_bind, hgroups] at hn
    exact hn
  obtain ⟨e, he⟩ := exists_expression_of_reduce h hreduce
  refine ⟨hreduce, e, he, ?_⟩
  rw [← he, ← tokens_read] at hread
  have houtcome := arithmetic_eq_outcome hchain hread
  rw [evaluateWithin, id, ← he, houtcome] at hn
  obtain ⟨m, hm, hmn⟩ := Except.bind_eq_ok_iff.mp hn
  obtain rfl : m = n := by simpa using hmn
  exact hm

theorem exists_append_of_forall₂ {α β : Type} {R : α → β → Prop} {l : List α} {l₁ l₂ : List β}
    (h : List.Forall₂ R l (l₁ ++ l₂)) :
    ∃ k₁ k₂, l = k₁ ++ k₂ ∧ List.Forall₂ R k₁ l₁ ∧ List.Forall₂ R k₂ l₂ :=
  ⟨_, _, (List.take_append_drop l₁.length l).symm, List.forall₂_take_append l l₁ l₂ h,
    List.forall₂_drop_append l l₁ l₂ h⟩

/-- When every group of a text has a value, a run over its groups leaves items of the text: on the
output, each group that has been closed is an expression. -/
theorem GroupTrace.exists_items {L : List (Lexeme Literal)} (hL : Separated IsNoDigit L)
    (hr : ∀ a, .atom a ∈ L → a.IsReadable)
    (hvalues : ∀ w, IsGroup w (lexemeText L) →
      ∃ n depth, evaluateWithin id (depth + 2) (w.map Token.sign) = .ok [.number n])
    (hplain : ∀ tokens, ArePlain tokens → inner tokens = reduce tokens)
    {output tokens flat : List Token} (h : GroupTrace inner output tokens flat)
    {items : List (List (Lexeme Literal))} (hitems : List.Forall₂ IsItem items output)
    {rest : List (Lexeme Literal)} (htokens : rest.map Lexeme.readToken = tokens)
    (hsplit : L = items.reverse.flatten ++ rest) :
    ∃ items', List.Forall₂ IsItem items' flat ∧ L = items'.flatten := by
  induction h generalizing items rest with
  | done output =>
    obtain rfl := List.map_eq_nil_iff.mp htokens
    exact ⟨items.reverse, List.forall₂_reverse_iff.mpr hitems, by simpa using hsplit⟩
  | push notClose _ ih =>
    obtain ⟨x, rest, rfl, rfl, hrest⟩ := List.map_eq_cons_iff.mp htokens
    have hitem : IsItem [x] x.readToken := by
      by_cases ho : x = .sign '('
      · exact .inr ⟨by rw [ho], by rw [ho]; rfl⟩
      · exact .inl (.lexeme ho fun hx => by rw [hx] at notClose; cases notClose)
    refine ih (.cons hitem hitems) hrest ?_
    rw [hsplit]
    simp
  | @close t paren group below result tokens flat isClose isOpen content run _ ih =>
    obtain ⟨x, rest, rfl, rfl, hrest⟩ := List.map_eq_cons_iff.mp htokens
    obtain rfl := readToken_isChar isClose
    obtain ⟨inside, items, rfl, hinside, hitems⟩ := exists_append_of_forall₂ hitems
    obtain ⟨xs, outside, hxs, houtside, rfl⟩ := List.forall₂_cons_right_iff.mp hitems
    obtain rfl := hxs.eq_open isOpen
    have hpieces : List.Forall₂ Piece inside.reverse group.reverse := by
      rw [List.forall₂_reverse_iff]
      exact pieces_of_items hinside content
    -- the text of the group, and the group as a line of its own
    have htext : L = outside.reverse.flatten ++
        .sign '(' :: (inside.reverse.flatten ++ .sign ')' :: rest) := by
      rw [hsplit]
      simp
    have hgroup : IsGroup (lexemeText inside.reverse.flatten) (lexemeText L) := by
      refine ⟨balanced_pieces hpieces, lexemeText outside.reverse.flatten, lexemeText rest, ?_⟩
      rw [htext, lexemeText_append, lexemeText_sign, lexemeText_append, lexemeText_sign]
    have hseparated : Separated IsNoDigit inside.reverse.flatten :=
      (htext ▸ hL).of_append_right.tail.of_append_left
    have hreadable : ∀ a, .atom a ∈ inside.reverse.flatten → a.IsReadable := by
      intro a ha
      refine hr a ?_
      rw [htext]
      simp [ha]
    obtain ⟨n, depth, hn⟩ := hvalues _ hgroup
    obtain ⟨hreduce, e, he, houtcome⟩ :=
      exists_expression_of_evaluateWithin hpieces hseparated hreadable hn
    rw [hplain _ (arePlain_of_reduce hreduce), hreduce] at run
    obtain rfl := Except.ok.inj run
    refine ih (.cons (.inl (.group houtcome)) houtside) hrest ?_
    rw [htext, he]
    simp

end Groups

/-! ### Values and derivations -/

theorem solidChars_ofList {w : List Char} {source : String} (h : ∀ c ∈ w, c ∈ solidChars source) :
    solidChars (String.ofList w) = w := by
  rw [solidChars, String.toList_ofList, List.filter_eq_self]
  exact fun c hc => (List.mem_filter.mp (h c hc)).2

theorem IsGroup.mem {w cs : List Char} (h : IsGroup w cs) : ∀ c ∈ w, c ∈ cs := by
  obtain ⟨-, before, after, rfl⟩ := h
  intro c hc
  simp [hc]

/-- A text with a value is an expression when all its groups have values. -/
theorem exists_expression_of_values {cs : List Char} {depth : Nat} {n : Number}
    (h : evaluateWithin id (depth + 2) (cs.map Token.sign) = .ok [.number n])
    (hvalues : ∀ w, IsGroup w cs →
      ∃ m depth, evaluateWithin id (depth + 2) (w.map Token.sign) = .ok [.number m]) :
    ∃ e : Expression Literal .sum, e.text = cs := by
  obtain ⟨L, rfl, hL⟩ := exists_lexemes cs
  rw [evaluateWithin] at h
  obtain ⟨numbers, hnumbers, h⟩ := Except.bind_eq_ok_iff.mp h
  obtain ⟨flat, hflat, hreduce⟩ := Except.bind_eq_ok_iff.mp h
  have hr := isReadable_of_readNumbers hL hnumbers
  rw [id, readNumbers_lexemeText hL hr] at hnumbers
  obtain rfl := Except.ok.inj hnumbers
  obtain ⟨items, hitems, rfl⟩ := (groupTrace_of_carryOut hflat).exists_items hL hr hvalues
    (fun _ => evaluateWithin_of_arePlain keepsPlain_id depth) .nil rfl rfl
  have hpieces := pieces_of_items hitems (arePlain_of_reduce hreduce).noOpen
  obtain ⟨e, he⟩ := exists_expression_of_reduce hpieces hreduce
  exact ⟨e, by rw [← he]; rfl⟩

/-- The sum is in parentheses somewhere in the expression. -/
inductive Expression.Inside {α : Type} (inner : Expression α .sum) :
    {l : Level} → Expression α l → Prop
  | here : Inside inner (.group inner)
  | group {e : Expression α .sum} : Inside inner e → Inside inner (.group e)
  | plain {p : Expression α .primary} : Inside inner p → Inside inner (.plain p)
  | negated {p : Expression α .primary} : Inside inner p → Inside inner (.negated p)
  | single {f : Expression α .factor} : Inside inner f → Inside inner (.single f)
  | scaledLeft {t : Expression α .product} (op : Scaling) (f : Expression α .factor) :
      Inside inner t → Inside inner (.scaled t op f)
  | scaledRight (t : Expression α .product) (op : Scaling) {f : Expression α .factor} :
      Inside inner f → Inside inner (.scaled t op f)
  | term {t : Expression α .product} : Inside inner t → Inside inner (.term t)
  | addedLeft {e : Expression α .sum} (op : Addition) (t : Expression α .product) :
      Inside inner e → Inside inner (.added e op t)
  | addedRight (e : Expression α .sum) (op : Addition) {t : Expression α .product} :
      Inside inner t → Inside inner (.added e op t)

section Inside

variable {l : Level} {inner : Expression Literal .sum} {e : Expression Literal l}

theorem Expression.Inside.mem_lexemes (h : inner.Inside e) {x : Lexeme Literal}
    (hx : x ∈ inner.lexemes) : x ∈ e.lexemes := by
  induction h with
  | here => simp [lexemes, hx]
  | group _ ih => simp [lexemes, ih]
  | plain _ ih => exact ih
  | negated _ ih => simp [lexemes, ih]
  | single _ ih => exact ih
  | scaledLeft op f _ ih => simp [lexemes, ih]
  | scaledRight t op _ ih => simp [lexemes, ih]
  | term _ ih => exact ih
  | addedLeft op t _ ih => simp [lexemes, ih]
  | addedRight e op _ ih => simp [lexemes, ih]

/-- What an expression comes to is computed from what the sums in it come to. -/
theorem Expression.Inside.exists_outcome (h : inner.Inside e) {c : Chain}
    (hc : e.read.flat = .ok c) : ∃ n, inner.read.outcome = .ok n := by
  induction h generalizing c with
  | here =>
    have hgroup : (do let n ← inner.read.outcome; .ok (Chain.ofNumber n)) = .ok c := by
      rw [outcome, bind_assoc]
      exact hc
    obtain ⟨n, hn, -⟩ := Except.bind_eq_ok_iff.mp hgroup
    exact ⟨n, hn⟩
  | group _ ih | negated _ ih | scaledLeft op f _ ih | addedLeft op t _ ih =>
    obtain ⟨d, hd, -⟩ := Except.bind_eq_ok_iff.mp hc
    exact ih hd
  | scaledRight t op _ ih | addedRight e op _ ih =>
    obtain ⟨left, hleft, hright⟩ := Except.bind_eq_ok_iff.mp hc
    obtain ⟨right, hd, -⟩ := Except.bind_eq_ok_iff.mp hright
    exact ih hd
  | plain _ ih | single _ ih | term _ ih => exact ih hc

/-- The groups of the text of an expression are the texts of the sums in it. -/
theorem exists_inside_of_isGroup {w : List Char} (h : IsGroup w e.text) :
    ∃ inner : Expression Literal .sum, inner.text = w ∧ inner.Inside e := by
  induction e with
  | atom a =>
    obtain ⟨-, before, after, heq⟩ := h
    have hopen : '(' ∈ a.digits := by
      rw [← Expression.text_atom a, heq]
      simp
    exact absurd rfl (a.ne_paren hopen).1
  | group e ih =>
    rw [Expression.text_group] at h
    rcases h.of_group e.balanced_text with rfl | h
    · exact ⟨e, rfl, .here⟩
    · exact (ih h).imp fun inner hi => hi.imp_right .group
  | plain p ih => exact (ih h).imp fun inner hi => hi.imp_right .plain
  | negated p ih =>
    rw [Expression.text_negated] at h
    rcases h.of_append_cons .nil (by decide) (by decide) with ⟨-, before, after, heq⟩ | h
    · simp at heq
    · exact (ih h).imp fun inner hi => hi.imp_right .negated
  | single f ih => exact (ih h).imp fun inner hi => hi.imp_right .single
  | scaled t op f iht ihf =>
    rw [Expression.text_scaled] at h
    rcases h.of_append_cons t.balanced_text op.char_ne_paren.1 op.char_ne_paren.2 with h | h
    · exact (iht h).imp fun inner hi => hi.imp_right (.scaledLeft op f)
    · exact (ihf h).imp fun inner hi => hi.imp_right (.scaledRight t op)
  | term t ih => exact (ih h).imp fun inner hi => hi.imp_right .term
  | added e op t ihe iht =>
    rw [Expression.text_added] at h
    rcases h.of_append_cons e.balanced_text op.char_ne_paren.1 op.char_ne_paren.2 with h | h
    · exact (ihe h).imp fun inner hi => hi.imp_right (.addedLeft op t)
    · exact (iht h).imp fun inner hi => hi.imp_right (.addedRight e op)

end Inside

theorem evaluateWithin_text {e : Expression Literal .sum} (he : e.IsReadable) (depth : Nat) :
    evaluateWithin id (depth + 2) (e.text.map Token.sign) =
      (do let n ← e.read.outcome; .ok [.number n]) :=
  arithmetic_eq_outcome (evaluateWithin_chain keepsPlain_id depth)
    (Expression.readNumbers_text he)

theorem isReadable_of_evaluateWithin {e : Expression Literal .sum} {depth : Nat}
    {result : List Token}
    (h : evaluateWithin id (depth + 2) (e.text.map Token.sign) = .ok result) : e.IsReadable := by
  obtain ⟨numbers, hnumbers, -⟩ := Except.bind_eq_ok_iff.mp h
  exact isReadable_of_readNumbers
    (e.separated_lexemes.mono fun _ => Expression.isNoDigit_of_mem_signs) hnumbers

/-- The parentheses of a line that has a value match, and the line is an expression exactly when
each of its groups has a value as a line of its own. -/
theorem balanced_and_derivable_iff {s : Session} (hs : s.pipeline = .standard)
    {source : String} {n : Number} (h : ((Session.compute source).result s).1 = .ok n) :
    Balanced (solidChars source) ∧
      ((∃ e : Expression Literal .sum, e.text = solidChars source) ↔
        ∀ w, IsGroup w (solidChars source) →
          ∃ m, ((Session.compute (String.ofList w)).result s).1 = .ok m) := by
  rw [compute_eq_ok_iff hs] at h
  have hgroup : ∀ w, IsGroup w (solidChars source) → ∀ m,
      ((Session.compute (String.ofList w)).result s).1 = .ok m ↔
        evaluateWithin id (w.length + 250) (w.map Token.sign) = .ok [.number m] := by
    intro w hw m
    rw [compute_eq_ok_iff hs, solidChars_ofList hw.mem]
  refine ⟨balanced_of_evaluateWithin h, ?_⟩
  constructor
  · rintro ⟨e, he⟩ w hw
    rw [← he] at h
    have hread := isReadable_of_evaluateWithin h
    rw [evaluateWithin_text hread] at h
    obtain ⟨m, hm, -⟩ := Except.bind_eq_ok_iff.mp h
    obtain ⟨c, hc, -⟩ := Except.bind_eq_ok_iff.mp hm
    obtain ⟨inner, rfl, hinside⟩ := exists_inside_of_isGroup (he ▸ hw)
    obtain ⟨k, hk⟩ := hinside.exists_outcome hc
    refine ⟨k, (hgroup inner.text hw k).mpr ?_⟩
    have hread' : inner.IsReadable := fun a ha => hread a (hinside.mem_lexemes ha)
    rw [evaluateWithin_text hread', hk]
    rfl
  · intro hvalues
    refine exists_expression_of_values h fun w hw => ?_
    obtain ⟨m, hm⟩ := hvalues w hw
    exact ⟨m, w.length + 248, (hgroup w hw m).mp hm⟩

theorem not_derivable_danglingSum :
    ((Session.compute "(1+)2").result (.startWith {} .standard .empty)).1 = .ok (.int 3) ∧
      Balanced (solidChars "(1+)2") ∧
      ¬∃ e : Expression Literal .sum, e.text = solidChars "(1+)2" := by
  have hvalue :
      ((Session.compute "(1+)2").result (.startWith {} .standard .empty)).1 = .ok (.int 3) := by
    decide +kernel
  obtain ⟨hbalanced, hiff⟩ := balanced_and_derivable_iff rfl hvalue
  refine ⟨hvalue, hbalanced, fun he => ?_⟩
  have hgroup : IsGroup ['1', '+'] (solidChars "(1+)2") :=
    ⟨.of_no_parens (by simp), [], ['2'], by decide⟩
  obtain ⟨m, hm⟩ := hiff.mp he ['1', '+'] hgroup
  have hfails : ((Session.compute (String.ofList ['1', '+'])).result
      (.startWith {} .standard .empty)).1.toOption = none := by
    decide +kernel
  rw [hm] at hfails
  cases hfails

/-- An empty group leaves nothing, and what is around it can still come to a value. -/
theorem value_of_emptyGroup :
    ((Session.compute "1()").result (.startWith {} .standard .empty)).1 = .ok (.int 1) ∧
      ¬∃ e : Expression Literal .sum, e.text = solidChars "1()" := by
  refine ⟨by decide +kernel, ?_⟩
  rintro ⟨e, he⟩
  have hgroup : IsGroup [] e.text := ⟨.nil, ['1'], [], he.trans (by decide)⟩
  obtain ⟨inner, hinner, -⟩ := exists_inside_of_isGroup hgroup
  exact inner.text_ne_nil hinner

end Calculator
