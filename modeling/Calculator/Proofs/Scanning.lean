import Calculator.Window

/-! Steps of a window scan.  The token that arrives is the last of the window it completes, so that
a token that fails the last test just goes on the output. -/

namespace Calculator.Window

variable {m : Type → Type} [Monad m] {tests : List (Token → Bool)}
  {combine : List Token → m (List Token)}

/-- A window that fits when `t` arrives is replaced. -/
theorem scanOnto_cons_of_fits {t : Token} {matched : List Token}
    (h : fits tests (matched.reverse ++ [t]) = true) (base tokens : List Token) :
    scanOnto tests combine (matched ++ base) (t :: tokens) = (do
      let replacement ← combine (matched.reverse ++ [t])
      scanOnto tests combine (replacement.reverse ++ base) tokens) := by
  have hl := length_eq_of_fits h
  simp only [List.length_append, List.length_reverse, List.length_singleton] at hl
  have htake : ((t :: (matched ++ base)).take tests.length).reverse = matched.reverse ++ [t] := by
    rw [← hl, List.take_succ_cons, List.take_left', List.reverse_cons]
    rfl
  have hdrop : (t :: (matched ++ base)).drop tests.length = base := by
    rw [← hl, List.drop_succ_cons, List.drop_left']
    rfl
  rw [scanOnto]
  simp only [htake, hdrop, h, if_true]

variable {last : Token → Bool}

theorem fits_eq_false_of_last {t : Token} (ht : last t = false) (output : List Token) :
    fits (tests ++ [last]) ((t :: output).take (tests ++ [last]).length).reverse = false := by
  rw [← Bool.not_eq_true]
  intro h
  have hl := length_eq_of_fits h
  rw [List.length_append, List.length_singleton, List.take_succ_cons, List.reverse_cons] at h hl
  rw [fits_append (by simpa using hl)] at h
  simp [fits, ht] at h

theorem scanOnto_cons_of_last {t : Token} (ht : last t = false) (output tokens : List Token) :
    scanOnto (tests ++ [last]) combine output (t :: tokens) =
      scanOnto (tests ++ [last]) combine (t :: output) tokens := by
  rw [scanOnto]
  simp only [fits_eq_false_of_last ht, Bool.false_eq_true, if_false]

variable (tests combine) in
/-- A scan in which every token fails the last test changes nothing. -/
theorem scanOnto_append_of_last {tokens : List Token} (h : ∀ t ∈ tokens, last t = false)
    (output rest : List Token) :
    scanOnto (tests ++ [last]) combine output (tokens ++ rest) =
      scanOnto (tests ++ [last]) combine (tokens.reverse ++ output) rest := by
  induction tokens generalizing output with
  | nil => rfl
  | cons t tokens ih =>
    rw [List.cons_append, scanOnto_cons_of_last (h t (by simp)),
      ih fun u hu => h u (List.mem_cons_of_mem _ hu)]
    simp

/-- Replacements that need no effect make a scan that needs none. -/
theorem scanOnto_pure [LawfulMonad m] {replace : List Token → List Token}
    (h : ∀ window, combine window = pure (replace window)) (output tokens : List Token) :
    scanOnto tests combine output tokens =
      pure (scanOnto (m := Id) tests (fun window => pure (replace window)) output tokens).run := by
  induction tokens generalizing output with
  | nil => rfl
  | cons t tokens ih =>
    simp only [scanOnto]
    split
    · rw [h, pure_bind, ih]
      rfl
    · exact ih _

/-- A scan leaves tokens that were there and tokens of replacements. -/
theorem mem_of_mem_scanOnto {replace : List Token → List Token} {output tokens : List Token}
    {t : Token}
    (ht : t ∈ (scanOnto (m := Id) tests (fun window => pure (replace window)) output tokens).run) :
    t ∈ output ∨ t ∈ tokens ∨ ∃ window, t ∈ replace window := by
  induction tokens generalizing output with
  | nil => exact .inl (List.mem_reverse.mp ht)
  | cons u tokens ih =>
    simp only [scanOnto] at ht
    split at ht
    · rcases ih ht with h | h | h
      · rcases List.mem_append.mp h with h | h
        · exact .inr (.inr ⟨_, List.mem_reverse.mp h⟩)
        · rcases List.mem_cons.mp (List.mem_of_mem_drop h) with rfl | h
          · exact .inr (.inl (by simp))
          · exact .inl h
      · exact .inr (.inl (List.mem_cons_of_mem _ h))
      · exact .inr (.inr h)
    · rcases ih ht with h | h | h
      · rcases List.mem_cons.mp h with rfl | h
        · exact .inr (.inl (by simp))
        · exact .inl h
      · exact .inr (.inl (List.mem_cons_of_mem _ h))
      · exact .inr (.inr h)

theorem exists_test_of_fits {window : List Token} (h : fits tests window = true) {t : Token}
    (ht : t ∈ window) : ∃ test ∈ tests, test t = true := by
  induction tests generalizing window with
  | nil =>
    cases window with
    | nil => cases ht
    | cons u window => cases h
  | cons test tests ih =>
    cases window with
    | nil => cases ht
    | cons u window =>
      simp only [fits, Bool.and_eq_true] at h
      rcases List.mem_cons.mp ht with rfl | ht
      · exact ⟨test, by simp, h.1⟩
      · obtain ⟨test', htest', hpass⟩ := ih h.2 ht
        exact ⟨test', List.mem_cons_of_mem _ htest', hpass⟩

/-- What fails every test is never part of a window. -/
theorem mem_scanOnto_of_mem {replace : List Token → List Token} {t : Token}
    (ht : ∀ test ∈ tests, test t = false) {output tokens : List Token}
    (h : t ∈ output ∨ t ∈ tokens) :
    t ∈ (scanOnto (m := Id) tests (fun window => pure (replace window)) output tokens).run := by
  induction tokens generalizing output with
  | nil =>
    rcases h with h | h
    · exact List.mem_reverse.mpr h
    · cases h
  | cons u tokens ih =>
    have hpush : t ∈ u :: output ∨ t ∈ tokens := by
      rcases h with h | h
      · exact .inl (List.mem_cons_of_mem u h)
      · rcases List.mem_cons.mp h with rfl | h
        · exact .inl (by simp)
        · exact .inr h
    simp only [scanOnto]
    split
    · rename_i hfits
      refine ih (hpush.imp_left fun hmem => List.mem_append_right _ ?_)
      rw [← List.take_append_drop tests.length (u :: output)] at hmem
      rcases List.mem_append.mp hmem with hmem | hmem
      · obtain ⟨test, htest, hpass⟩ := exists_test_of_fits hfits (List.mem_reverse.mpr hmem)
        rw [ht test htest] at hpass
        cases hpass
      · exact hmem
    · exact ih hpush

/-- A scan has replaced nothing where it does not leave a token that every replacement holds and no
window takes in. -/
theorem scanOnto_eq_of_not_mem {replace : List Token → List Token} {t : Token}
    (ht : ∀ test ∈ tests, test t = false) (hreplace : ∀ window, t ∈ replace window)
    {output tokens : List Token}
    (h : t ∉ (scanOnto (m := Id) tests (fun window => pure (replace window)) output tokens).run) :
    (scanOnto (m := Id) tests (fun window => pure (replace window)) output tokens).run =
      output.reverse ++ tokens := by
  induction tokens generalizing output with
  | nil => exact (List.append_nil _).symm
  | cons u tokens ih =>
    simp only [scanOnto] at h ⊢
    split at h
    · refine absurd (mem_scanOnto_of_mem ht (.inl ?_)) h
      exact List.mem_append_left _ (List.mem_reverse.mpr (hreplace _))
    · rename_i hfits
      rw [if_neg hfits, ih h, List.reverse_cons, List.append_assoc]
      rfl

/-- A scan goes on with the output of the tokens before. -/
theorem scanOnto_append [LawfulMonad m] (output tokens rest : List Token) :
    scanOnto tests combine output (tokens ++ rest) = (do
      let scanned ← scanOnto tests combine output tokens
      scanOnto tests combine scanned.reverse rest) := by
  induction tokens generalizing output with
  | nil => simp [scanOnto]
  | cons t tokens ih =>
    simp only [List.cons_append, scanOnto]
    split
    · rw [bind_assoc]
      congr 1
      funext replacement
      exact ih _
    · exact ih _

/-- A token at the bottom of the output that cannot begin a window stays there. -/
theorem scanOnto_bottom [LawfulMonad m] {first : Token → Bool} {base : Token}
    (hb : first base = false) (output tokens : List Token) :
    scanOnto (first :: tests) combine (output ++ [base]) tokens = (do
      let scanned ← scanOnto (first :: tests) combine output tokens
      pure (base :: scanned)) := by
  induction tokens generalizing output with
  | nil => simp [scanOnto]
  | cons t tokens ih =>
    rw [scanOnto, scanOnto, ← List.cons_append]
    by_cases hl : (first :: tests).length ≤ (t :: output).length
    · rw [List.take_append_of_le_length hl, List.drop_append_of_le_length hl]
      split
      · rw [bind_assoc]
        congr 1
        funext replacement
        rw [← List.append_assoc, ih]
      · exact ih (t :: output)
    · have hshort : fits (first :: tests)
          ((t :: output).take (first :: tests).length).reverse = false := by
        rw [← Bool.not_eq_true]
        intro h
        have hlength := length_eq_of_fits h
        rw [List.length_reverse, List.length_take] at hlength
        omega
      have hbottom : fits (first :: tests)
          ((t :: output ++ [base]).take (first :: tests).length).reverse = false := by
        rw [← Bool.not_eq_true]
        intro h
        have hlength := length_eq_of_fits h
        rw [List.length_reverse, List.length_take, List.length_append, List.length_singleton]
          at hlength
        rw [List.take_of_length_le (by rw [List.length_append, List.length_singleton]; omega),
          List.reverse_append] at h
        simp [fits, hb] at h
      simp only [hshort, hbottom, Bool.false_eq_true, if_false]
      exact ih (t :: output)

@[simp] theorem test_literal_char (c : Char) (p : Option Int) (t : Token) :
    (Place.literal (.char c p)).test t = t.isChar c := by
  cases t <;> simp [Place.test, Token.same, eq_comm]

@[simp] theorem test_literal_symbol (name : String) (t : Token) :
    (Place.literal (.symbol name)).test t = t.isSymbol name := by
  cases t <;> simp [Place.test, Token.same, Token.isSymbol, eq_comm]

@[simp] theorem test_any (t : Token) : Place.any.test t = true := rfl

end Calculator.Window
