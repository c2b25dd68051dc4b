import Calculator.Proofs.Chain

/-! What reduction leaves.  A sign that is left stands at an end of the list, since the numbers on
both sides of any other would have been combined.  So a list that was reduced and is reduced once
more to a number was that number already, or a minus and the number that it is the negative of. -/

namespace Calculator

/-- No token as `test` says stands between two others. -/
def NoneBetween (test : Token → Bool) (tokens : List Token) : Prop :=
  ∀ before t behind, tokens = before ++ t :: behind → test t = true → before = [] ∨ behind = []

section Fold

variable {isSign : Token → Bool} {operation : Number → Token → Number → Except Failure Number}

/-- A fold starts with what it starts from, or with a number. -/
theorem head_of_foldFrom {left t : Token} {tokens folded : List Token}
    (h : foldFrom isSign operation left tokens = .ok (t :: folded)) :
    t = left ∨ t.isNumber = true := by
  induction left, tokens using foldFrom.induct isSign with
  | case1 left =>
    obtain ⟨rfl, -⟩ := List.cons.inj (Except.ok.inj h)
    exact .inl rfl
  | case2 left u =>
    obtain ⟨rfl, -⟩ := List.cons.inj (Except.ok.inj h)
    exact .inl rfl
  | case3 left u right rest hu ih =>
    rw [foldFrom_cons_of_sign operation hu] at h
    obtain ⟨n, -, h⟩ := Except.bind_eq_ok_iff.mp h
    rcases ih n h with rfl | hn
    · exact .inr rfl
    · exact .inr hn
  | case4 left u right rest hu ih =>
    rw [foldFrom_cons_of_not_sign operation (by simpa using hu)] at h
    obtain ⟨folded', -, h⟩ := Except.bind_eq_ok_iff.mp h
    obtain ⟨rfl, -⟩ := List.cons.inj (Except.ok.inj h)
    exact .inl rfl

/-- A fold leaves none of its own signs between others. -/
theorem noneBetween_of_foldFrom (hn : ∀ n, isSign (.number n) = false) {left : Token}
    {tokens folded : List Token} (h : foldFrom isSign operation left tokens = .ok folded) :
    NoneBetween isSign folded := by
  induction left, tokens using foldFrom.induct isSign generalizing folded with
  | case1 left =>
    obtain rfl := Except.ok.inj h
    intro before t behind hsplit _
    rcases List.cons_eq_append_iff.mp hsplit with ⟨rfl, -⟩ | ⟨before, rfl, hrest⟩
    · exact .inl rfl
    · cases before <;> cases hrest
  | case2 left u =>
    obtain rfl := Except.ok.inj h
    intro before t behind hsplit _
    rcases List.cons_eq_append_iff.mp hsplit with ⟨rfl, -⟩ | ⟨before, rfl, hrest⟩
    · exact .inl rfl
    · rcases List.cons_eq_append_iff.mp hrest with ⟨rfl, hbehind⟩ | ⟨before, rfl, hrest⟩
      · exact .inr (List.cons.inj hbehind).2
      · cases before <;> cases hrest
  | case3 left u right rest hu ih =>
    rw [foldFrom_cons_of_sign operation hu] at h
    obtain ⟨n, -, h⟩ := Except.bind_eq_ok_iff.mp h
    exact ih n h
  | case4 left u right rest hu ih =>
    have hu : isSign u = false := by simpa using hu
    rw [foldFrom_cons_of_not_sign operation hu] at h
    obtain ⟨folded', hfolded, h⟩ := Except.bind_eq_ok_iff.mp h
    obtain rfl := Except.ok.inj h
    intro before t behind hsplit ht
    rcases List.cons_eq_append_iff.mp hsplit with ⟨rfl, -⟩ | ⟨before, rfl, hrest⟩
    · exact .inl rfl
    · rcases ih hfolded before t behind hrest ht with rfl | rfl
      · -- the sign would be the first token behind `left`, which is no sign
        rw [hrest, List.nil_append] at hfolded
        rcases head_of_foldFrom hfolded with rfl | hnumber
        · rw [hu] at ht
          cases ht
        · cases t with
          | number n => simp [hn] at ht
          | _ => cases hnumber
      · exact .inr rfl

/-- What is left between others has stood between others. -/
theorem NoneBetween.of_foldFrom {test : Token → Bool} (hn : ∀ n, test (.number n) = false)
    {left : Token} {tokens folded : List Token} (hnone : NoneBetween test (left :: tokens))
    (h : foldFrom isSign operation left tokens = .ok folded) : NoneBetween test folded := by
  have hsplit : ∀ before t behind, folded = before ++ t :: behind → test t = true →
      ∃ before' behind', left :: tokens = before' ++ t :: behind' ∧
        (before' = [] → before = []) ∧ (behind' = [] → behind = []) := by
    clear hnone
    induction left, tokens using foldFrom.induct isSign generalizing folded with
    | case1 left =>
      obtain rfl := Except.ok.inj h
      exact fun before t behind hf _ => ⟨before, behind, hf, id, id⟩
    | case2 left u =>
      obtain rfl := Except.ok.inj h
      exact fun before t behind hf _ => ⟨before, behind, hf, id, id⟩
    | case3 left u right rest hu ih =>
      rw [foldFrom_cons_of_sign operation hu] at h
      obtain ⟨n, -, h⟩ := Except.bind_eq_ok_iff.mp h
      intro before t behind hf ht
      obtain ⟨before', behind', hrest, -, hbehind⟩ := ih n h before t behind hf ht
      rcases List.cons_eq_append_iff.mp hrest with ⟨-, hnumber⟩ | ⟨before', rfl, htail⟩
      · obtain ⟨rfl, -⟩ := List.cons.inj hnumber
        simp [hn] at ht
      · exact ⟨left :: u :: right :: before', behind', by rw [htail]; rfl,
          fun h => absurd h (List.cons_ne_nil _ _), hbehind⟩
    | case4 left u right rest hu ih =>
      rw [foldFrom_cons_of_not_sign operation (by simpa using hu)] at h
      obtain ⟨folded', hfolded, h⟩ := Except.bind_eq_ok_iff.mp h
      obtain rfl := Except.ok.inj h
      intro before t behind hf ht
      rcases List.cons_eq_append_iff.mp hf with ⟨rfl, hhead⟩ | ⟨before, rfl, hrest⟩
      · obtain ⟨rfl, -⟩ := List.cons.inj hhead
        exact ⟨[], u :: right :: rest, rfl, fun _ => rfl, fun h => absurd h (List.cons_ne_nil _ _)⟩
      · obtain ⟨before', behind', htokens, -, hbehind⟩ := ih hfolded before t behind hrest ht
        exact ⟨left :: before', behind', by rw [htokens]; rfl,
          fun h => absurd h (List.cons_ne_nil _ _), hbehind⟩
  intro before t behind hf ht
  obtain ⟨before', behind', htokens, hbefore, hbehind⟩ := hsplit before t behind hf ht
  exact (hnone before' t behind' htokens ht).imp hbefore hbehind

end Fold

/-- Every operator that reduction leaves is the first or the last token. -/
theorem noneBetween_of_reduce {tokens reduced : List Token} (h : reduce tokens = .ok reduced) :
    NoneBetween (fun t => isAddition t || isScaling t) reduced := by
  obtain ⟨scaled, hscaled, hsums⟩ := Except.bind_eq_ok_iff.mp h
  rw [foldSums_eq_fold] at hsums
  rw [foldProducts_eq_fold] at hscaled
  cases scaled with
  | nil =>
    obtain rfl := Except.ok.inj hsums
    exact fun before t behind hsplit _ => by cases before <;> cases hsplit
  | cons left rest =>
    have hscalings : NoneBetween isScaling (left :: rest) := by
      cases hsigned : applySigns tokens with
      | nil =>
        rw [hsigned] at hscaled
        cases hscaled
      | cons first signed =>
        rw [hsigned] at hscaled
        exact noneBetween_of_foldFrom (fun _ => rfl) hscaled
    have hadditions := noneBetween_of_foldFrom (fun _ => rfl) hsums
    have hscalings := hscalings.of_foldFrom (fun _ => rfl) hsums
    intro before t behind hsplit ht
    rcases Bool.or_eq_true_iff.mp ht with ht | ht
    · exact hadditions before t behind hsplit ht
    · exact hscalings before t behind hsplit ht

theorem Operator.isOperator_sign (op : Operator) :
    (isAddition (.sign op.char) || isScaling (.sign op.char)) = true := by
  obtain ⟨op⟩ | ⟨op⟩ := op <;> cases op <;> rfl

/-- A chain whose operators stand at its ends has none. -/
theorem Chain.rest_eq_nil {c : Chain}
    (h : NoneBetween (fun t => isAddition t || isScaling t) c.tokens) : c.rest = [] := by
  obtain ⟨first, rest⟩ := c
  cases rest with
  | nil => rfl
  | cons s rest =>
    obtain ⟨op, operand⟩ := s
    have hsplit : Chain.tokens ⟨first, (op, operand) :: rest⟩ =
        first.tokens ++ .sign op.char :: (operand.tokens ++ restTokens rest) := by
      simp [Chain.tokens, restTokens]
    have hne : ∀ s : Signed, s.tokens ≠ [] := by
      rintro ⟨negative, n⟩
      cases negative <;> exact List.cons_ne_nil _ _
    rcases h _ _ _ hsplit op.isOperator_sign with hbefore | hbehind
    · exact absurd hbefore (hne first)
    · exact absurd (List.append_eq_nil_iff.mp hbehind).1 (hne operand)

theorem reduce_negated (p : Option Int) (m : Number) :
    reduce [.char '-' p, .number m] = .ok [.number m.neg] := by
  simp [reduce, applySigns, signsFrom]
  rfl

/-- What is reduced again to a number was that number, or a minus before the number that it is the
negative of. -/
theorem reduce_reduce {tokens reduced : List Token} {n : Number}
    (h : reduce tokens = .ok reduced) (hn : reduce reduced = .ok [.number n]) :
    reduced = [.number n] ∨ ∃ p m, reduced = [.char '-' p, .number m] ∧ n = m.neg := by
  obtain ⟨c, hc⟩ := exists_chain_of_reduce hn
  have hnone : NoneBetween (fun t => isAddition t || isScaling t) c.tokens := by
    rw [← hc]
    intro before t behind hsplit ht
    obtain ⟨before', rest, rfl, rfl, hrest⟩ := List.map_eq_append_iff.mp hsplit
    obtain ⟨u, behind', rfl, rfl, rfl⟩ := List.map_eq_cons_iff.mp hrest
    have hu : (isAddition u || isScaling u) = true := by
      cases u <;> exact ht
    refine (noneBetween_of_reduce h before' u behind' rfl hu).imp ?_ ?_
    · rintro rfl
      rfl
    · rintro rfl
      rfl
  -- what is left of the chain is one number, with a sign or without
  obtain ⟨⟨negative, m⟩, rest⟩ := c
  obtain rfl : rest = [] := Chain.rest_eq_nil hnone
  cases negative with
  | false =>
    have hreduced : reduced = [.number m] := by
      obtain ⟨t, rest, rfl, ht, hrest⟩ := List.map_eq_cons_iff.mp hc
      obtain rfl := List.map_eq_nil_iff.mp hrest
      cases t <;> cases ht
      rfl
    have hvalue : reduce [.number m] = .ok [.number m] := reduce_tokens ⟨⟨false, m⟩, []⟩
    rw [hreduced, hvalue] at hn
    obtain ⟨hmn, -⟩ := List.cons.inj (Except.ok.inj hn)
    exact .inl (hreduced.trans (by rw [hmn]))
  | true =>
    obtain ⟨t, rest, rfl, ht, hrest⟩ := List.map_eq_cons_iff.mp hc
    obtain ⟨u, rest, rfl, hu, hrest⟩ := List.map_eq_cons_iff.mp hrest
    obtain rfl := List.map_eq_nil_iff.mp hrest
    cases t <;> cases ht
    cases u <;> cases hu
    rename_i p
    refine .inr ⟨p, m, rfl, ?_⟩
    rw [reduce_negated] at hn
    obtain ⟨hmn, -⟩ := List.cons.inj (Except.ok.inj hn)
    exact (Token.number.inj hmn).symm

end Calculator
