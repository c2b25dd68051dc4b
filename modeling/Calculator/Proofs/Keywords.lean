import Calculator.Proofs.Measures

/-! Keywords.  The scan for keywords is exact replacement: it leaves no letters of a keyword in a
row, and writing the keywords out again gives back what they were made of.  A list is determined by
these two facts, since occurrences of the letters cannot overlap. -/

namespace Calculator

/-- A token written out: the keyword by its letters, any other by itself. -/
def Token.spelled (t : Token) : List Token :=
  if t = .symbol setKeyword then setKeyword.toList.map Token.sign else [t]

/-- Some tokens with every keyword written out. -/
def spelledOut (tokens : List Token) : List Token := tokens.flatMap Token.spelled

/-- No tokens in a row are the letters of the keyword. -/
def LacksLetters (tokens : List Token) : Prop :=
  Window.IsFree [Token.isChar 's', Token.isChar 'e', Token.isChar 't'] tokens

theorem spelledOut_keyword (tokens : List Token) :
    spelledOut (.symbol setKeyword :: tokens) =
      .sign 's' :: .sign 'e' :: .sign 't' :: spelledOut tokens := rfl

theorem spelledOut_cons {t : Token} (h : t ≠ .symbol setKeyword) (tokens : List Token) :
    spelledOut (t :: tokens) = t :: spelledOut tokens := by
  rw [spelledOut, List.flatMap_cons, Token.spelled, if_neg h]
  rfl

theorem spelledOut_of_not_mem {tokens : List Token} (h : .symbol setKeyword ∉ tokens) :
    spelledOut tokens = tokens := by
  induction tokens with
  | nil => rfl
  | cons t tokens ih =>
    rw [List.mem_cons, not_or] at h
    rw [spelledOut_cons (Ne.symm h.1), ih h.2]

/-! ### What the scan leaves -/

/-- A window for the keyword is three letters. -/
theorem letters_of_fits {window : List Token}
    (h : Window.fits (keywordPattern.map Window.Place.test) window = true) :
    ∃ p q r, window = [.char 's' p, .char 'e' q, .char 't' r] := by
  obtain ⟨a, b, c, rfl⟩ := List.length_eq_three.mp (Window.length_eq_of_fits h)
  rw [keywordTests_letters] at h
  simp only [Window.fits, Bool.and_true, Bool.and_eq_true, Token.isChar_iff] at h
  obtain ⟨⟨p, rfl⟩, ⟨q, rfl⟩, r, rfl⟩ := h
  exact ⟨p, q, r, rfl⟩

theorem LacksLetters.tail {t : Token} {tokens : List Token} (h : LacksLetters (t :: tokens)) :
    LacksLetters tokens := h.of_infix (List.suffix_cons t tokens).isInfix

theorem lacksLetters_keywords (tokens : List Token) : LacksLetters (keywords tokens) := by
  have hscan : (Window.scanOnto (keywordPattern.map Window.Place.test) keywordWindow []
      tokens).Keeps (fun _ => True) LacksLetters (fun _ => False) := by
    refine Window.keeps_scanOnto_of (fun output _ => LacksLetters output.reverse)
      (fun h => h) ?push ?replace ?start
    case push =>
      intro output t rest hfits h
      rw [keywordTests_letters] at hfits
      exact h.push hfits
    case replace =>
      intro window base output t rest hwindow hfits h
      obtain ⟨p, q, r, rfl⟩ := letters_of_fits hfits
      obtain ⟨-, rfl⟩ := List.cons.inj hwindow
      -- What lies below the letters has no letters in a row, and a keyword is no letter.
      have hbase : Window.IsFree ([Token.isChar 's', Token.isChar 'e'] ++ [Token.isChar 't'])
          base.reverse := by
        refine h.of_infix ?_
        exact List.reverse_infix.mpr (List.suffix_append [.char 'e' q, .char 's' p] base).isInfix
      have hkeyword : ∀ t ∈ [Token.symbol setKeyword], t.isChar 't' = false :=
        List.forall_mem_singleton.mpr rfl
      exact Action.keeps_pure (hbase.append_of_last hkeyword)
    case start =>
      intro window hw
      rw [List.reverse_nil, List.infix_nil] at hw
      rw [hw]
      rfl
  have hmeets := (hscan .empty trivial).2
  have hkeywords : Window.scanOnto (keywordPattern.map Window.Place.test) keywordWindow [] tokens =
      pure (keywords tokens) := scanPattern_keywordPattern tokens
  rw [hkeywords] at hmeets
  exact hmeets

theorem product_spelled (tokens : List Token) :
    product (fun t => FreeMonoid.ofList (withoutOffsets t.spelled)) tokens =
      FreeMonoid.ofList (withoutOffsets (spelledOut tokens)) := by
  induction tokens with
  | nil => rfl
  | cons t tokens ih =>
    have hcons : spelledOut (t :: tokens) = t.spelled ++ spelledOut tokens := List.flatMap_cons
    rw [← List.singleton_append, product_append, ih, List.singleton_append, hcons,
      withoutOffsets_append, FreeMonoid.ofList_append]
    simp [product]

/-- The keywords that are made are made of their letters. -/
theorem spelledOut_keywords (tokens : List Token) :
    withoutOffsets (spelledOut (keywords tokens)) = withoutOffsets (spelledOut tokens) := by
  have hwindow : ∀ window, Window.fits (keywordPattern.map Window.Place.test) window = true →
      ∀ env replacement, ((keywordWindow window).result env).1 = .ok replacement →
      product (fun t => FreeMonoid.ofList (withoutOffsets t.spelled)) replacement =
        product (fun t => FreeMonoid.ofList (withoutOffsets t.spelled)) window := by
    intro window hfits env replacement hr
    obtain rfl : [.symbol setKeyword] = replacement := Except.ok.inj hr
    obtain ⟨p, q, r, rfl⟩ := letters_of_fits hfits
    rfl
  have hscan : Window.scan (keywordPattern.map Window.Place.test) keywordWindow tokens =
      pure (keywords tokens) := scanPattern_keywordPattern tokens
  have hproduct := (Window.product_scan _ hwindow tokens .empty trivial).2
  rw [hscan] at hproduct
  have hproduct : product _ (keywords tokens) = product _ tokens := hproduct
  rwa [product_spelled, product_spelled, FreeMonoid.ofList.apply_eq_iff_eq] at hproduct

/-! ### Uniqueness -/

/-- A token other than the first letter of the keyword, at the front of what is written out, is a
token of the list. -/
theorem exists_cons_of_spelledOut {tokens rest : List Token} {u : Token}
    (hu : u ≠ .sign 's') (h : withoutOffsets (spelledOut tokens) = u :: rest) :
    ∃ t tokens', tokens = t :: tokens' ∧ t.withoutOffset = u ∧
      withoutOffsets (spelledOut tokens') = rest := by
  cases tokens with
  | nil => cases h
  | cons t tokens =>
    by_cases ht : t = .symbol setKeyword
    · subst ht
      exact absurd (List.cons.inj h).1.symm hu
    · rw [spelledOut_cons ht, withoutOffsets_cons] at h
      obtain ⟨hfirst, hrest⟩ := List.cons.inj h
      exact ⟨t, tokens, rfl, hfirst, hrest⟩

theorem isChar_of_withoutOffset {t : Token} {c : Char} (h : t.withoutOffset = .sign c) :
    t.isChar c = true := by
  rw [← t.isChar_withoutOffset, h]
  simp [Token.sign]

/-- Where there are no letters of the keyword in a row, written letters stem from a keyword. -/
theorem LacksLetters.exists_keyword {tokens rest : List Token} (hfree : LacksLetters tokens)
    (h : withoutOffsets (spelledOut tokens) = .sign 's' :: .sign 'e' :: .sign 't' :: rest) :
    ∃ tokens', tokens = .symbol setKeyword :: tokens' ∧
      withoutOffsets (spelledOut tokens') = rest := by
  cases tokens with
  | nil => cases h
  | cons t tokens =>
    by_cases ht : t = .symbol setKeyword
    · subst ht
      rw [spelledOut_keyword] at h
      simp only [withoutOffsets_cons, List.cons.injEq] at h
      exact ⟨tokens, rfl, h.2.2.2⟩
    · rw [spelledOut_cons ht, withoutOffsets_cons] at h
      obtain ⟨hs, h⟩ := List.cons.inj h
      obtain ⟨u, tokens, rfl, he, h⟩ := exists_cons_of_spelledOut (by decide) h
      obtain ⟨v, tokens, rfl, ht, h⟩ := exists_cons_of_spelledOut (by decide) h
      have hfits := hfree [t, u, v] (List.prefix_append [t, u, v] tokens).isInfix
      simp [Window.fits, isChar_of_withoutOffset hs, isChar_of_withoutOffset he,
        isChar_of_withoutOffset ht] at hfits

/-- Lists without letters of the keyword in a row that are the same written out are the same. -/
theorem LacksLetters.eq_of_spelledOut {tokens other : List Token} (h : LacksLetters tokens)
    (ho : LacksLetters other)
    (hspelled : withoutOffsets (spelledOut tokens) = withoutOffsets (spelledOut other)) :
    withoutOffsets tokens = withoutOffsets other := by
  have hnil : ∀ tokens, withoutOffsets (spelledOut tokens) = [] → tokens = [] := by
    intro tokens h
    cases tokens with
    | nil => rfl
    | cons t tokens =>
      by_cases ht : t = .symbol setKeyword
      · subst ht
        cases h
      · rw [spelledOut_cons ht] at h
        cases h
  induction tokens generalizing other with
  | nil => rw [hnil other hspelled.symm]
  | cons t tokens ih =>
    by_cases ht : t = .symbol setKeyword
    · subst ht
      obtain ⟨other, rfl, hrest⟩ := ho.exists_keyword hspelled.symm
      rw [withoutOffsets_cons, withoutOffsets_cons, ih h.tail ho.tail hrest.symm]
    · cases other with
      | nil => cases hnil _ hspelled
      | cons u other =>
        by_cases hu : u = .symbol setKeyword
        · subst hu
          obtain ⟨_, heq, -⟩ := h.exists_keyword hspelled
          exact absurd (List.cons.inj heq).1 ht
        · rw [spelledOut_cons ht, spelledOut_cons hu] at hspelled
          obtain ⟨hfirst, hrest⟩ := List.cons.inj hspelled
          rw [withoutOffsets_cons, withoutOffsets_cons, hfirst, ih h.tail ho.tail hrest]

/-- Making keywords replaces their letters exactly: where no keyword is written yet, the letters of
none are left, and with its keywords written out the result is the list again, which is true of no
other result. -/
theorem keywords_exact (tokens : List Token) (env : Environment)
    (h : .symbol setKeyword ∉ tokens) :
    (Pass.setWord.call tokens).result env = (.ok (keywords tokens), env) ∧
      LacksLetters (keywords tokens) ∧
      withoutOffsets (spelledOut (keywords tokens)) = withoutOffsets tokens ∧
      ∀ other, LacksLetters other →
        withoutOffsets (spelledOut other) = withoutOffsets tokens →
        withoutOffsets other = withoutOffsets (keywords tokens) := by
  have hcall : Pass.setWord.call tokens = pure (keywords tokens) :=
    scanPattern_keywordPattern tokens
  have hspelled : withoutOffsets (spelledOut (keywords tokens)) = withoutOffsets tokens := by
    rw [spelledOut_keywords, spelledOut_of_not_mem h]
  have hlacks := lacksLetters_keywords tokens
  refine ⟨by rw [hcall, Action.result_pure], hlacks, hspelled, fun other ho heq => ?_⟩
  exact ho.eq_of_spelledOut hlacks (heq.trans hspelled.symm)

/-- In `ssesett` the letters in the middle are a keyword. -/
theorem keywords_exact_repeatedLetters :
    let tokens := "ssesett".toList.map Token.sign
    let made : List Token := [.sign 's', .sign 's', .sign 'e', .symbol setKeyword, .sign 't']
    Token.symbol setKeyword ∉ tokens ∧
      (Pass.setWord.call tokens).result .empty = (.ok made, .empty) ∧ LacksLetters made ∧
      withoutOffsets (spelledOut made) = tokens := by
  intro tokens made
  have h : Token.symbol setKeyword ∉ tokens := by decide
  obtain ⟨hcall, hlacks, hspelled, -⟩ := keywords_exact tokens .empty h
  exact ⟨h, hcall, hlacks, hspelled⟩

end Calculator
