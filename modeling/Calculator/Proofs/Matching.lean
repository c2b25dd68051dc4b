import Calculator.Proofs.Nesting
import Calculator.Proofs.Positions

/-! Parentheses without a partner.  A text that is read with a stack leaves the parentheses that
match no other.  The opening parentheses on the output of a run over groups are that stack at every
step, and no run of a group finds any; so an error blames a parenthesis that the source leaves. -/

namespace Calculator

/-- The parentheses that match no other, in order; those on the stack `opened` are open before the
tokens, the last one first. -/
def unmatchedFrom (opened : List Token) : List Token → List Token
  | [] => opened.reverse
  | t :: tokens =>
      if t.isChar '(' then unmatchedFrom (t :: opened) tokens
      else if t.isChar ')' then
        match opened with
        | [] => t :: unmatchedFrom [] tokens
        | _ :: opened => unmatchedFrom opened tokens
      else unmatchedFrom opened tokens

def unmatched (tokens : List Token) : List Token := unmatchedFrom [] tokens

/-- The characters of a text that starts at an offset of a longer one, each at its own offset. -/
def charactersFrom (offset : Nat) (cs : List Char) : List Token :=
  (cs.zipIdx offset).map fun (c, i) => .char c (some i)

def characters (source : String) : List Token := charactersFrom 0 source.toList

/-! ### The stack -/

def Token.isParen (t : Token) : Bool := t.isChar '(' || t.isChar ')'

theorem Token.isChar_open_of_close {t : Token} (h : t.isChar ')' = true) :
    t.isChar '(' = false := by
  obtain ⟨p, rfl⟩ := isChar_iff.mp h
  rfl

section Stack

variable {opened tokens : List Token} {t : Token}

theorem unmatchedFrom_open (h : t.isChar '(' = true) :
    unmatchedFrom opened (t :: tokens) = unmatchedFrom (t :: opened) tokens := by
  rw [unmatchedFrom.eq_def]
  exact if_pos h

theorem unmatchedFrom_close (h : t.isChar ')' = true) (paren : Token) :
    unmatchedFrom (paren :: opened) (t :: tokens) = unmatchedFrom opened tokens := by
  rw [unmatchedFrom, if_neg (by simp [Token.isChar_open_of_close h]), if_pos h]

theorem unmatchedFrom_nil_close (h : t.isChar ')' = true) :
    unmatchedFrom [] (t :: tokens) = t :: unmatchedFrom [] tokens := by
  rw [unmatchedFrom, if_neg (by simp [Token.isChar_open_of_close h]), if_pos h]

theorem unmatchedFrom_of_not_isParen (h : t.isParen = false) :
    unmatchedFrom opened (t :: tokens) = unmatchedFrom opened tokens := by
  obtain ⟨ho, hc⟩ := Bool.or_eq_false_iff.mp h
  rw [unmatchedFrom.eq_def]
  simp only [ho, hc, Bool.false_eq_true, if_false]

/-- A token opens a group, closes one or has no part in matching. -/
theorem Token.paren_cases (t : Token) :
    t.isChar '(' = true ∨ t.isChar ')' = true ∨ t.isParen = false := by
  rw [isParen]
  cases t.isChar '(' <;> simp

theorem unmatchedFrom_filter (opened tokens : List Token) :
    unmatchedFrom opened (tokens.filter Token.isParen) = unmatchedFrom opened tokens := by
  induction tokens generalizing opened with
  | nil => rfl
  | cons t tokens ih =>
    rcases t.paren_cases with ht | ht | ht
    · rw [List.filter_cons_of_pos (by simp [Token.isParen, ht]), unmatchedFrom_open ht,
        unmatchedFrom_open ht, ih]
    · rw [List.filter_cons_of_pos (by simp [Token.isParen, ht])]
      cases opened with
      | nil => rw [unmatchedFrom_nil_close ht, unmatchedFrom_nil_close ht, ih]
      | cons paren opened => rw [unmatchedFrom_close ht, unmatchedFrom_close ht, ih]
    · rw [List.filter_cons_of_neg (by simp [ht]), unmatchedFrom_of_not_isParen ht, ih]

theorem mem_of_mem_unmatchedFrom {u : Token} (h : u ∈ unmatchedFrom opened tokens) :
    u ∈ opened ∨ u ∈ tokens ∧ u.isParen = true := by
  induction tokens generalizing opened with
  | nil => exact .inl (List.mem_reverse.mp h)
  | cons t tokens ih =>
    have hrest : ∀ {opened}, u ∈ unmatchedFrom opened tokens →
        u ∈ opened ∨ u ∈ t :: tokens ∧ u.isParen = true :=
      fun h => (ih h).imp_right fun ⟨hu, hparen⟩ => ⟨List.mem_cons_of_mem t hu, hparen⟩
    have hself : t.isParen = true → u = t → u ∈ t :: tokens ∧ u.isParen = true := by
      rintro hparen rfl
      exact ⟨List.mem_cons_self, hparen⟩
    rcases t.paren_cases with ht | ht | ht
    · rw [unmatchedFrom_open ht] at h
      rcases hrest h with h | h
      · exact (List.mem_cons.mp h).symm.imp_right (hself (by simp [Token.isParen, ht]))
      · exact .inr h
    · cases opened with
      | nil =>
        rw [unmatchedFrom_nil_close ht] at h
        rcases List.mem_cons.mp h with h | h
        · exact .inr (hself (by simp [Token.isParen, ht]) h)
        · exact hrest h
      | cons paren opened =>
        rw [unmatchedFrom_close ht] at h
        exact (hrest h).imp_left (List.mem_cons_of_mem paren)
    · rw [unmatchedFrom_of_not_isParen ht] at h
      exact hrest h

/-- Nothing is left when the tokens close what is open and never more. -/
theorem unmatchedFrom_eq_nil_iff :
    unmatchedFrom opened tokens = [] ↔
      opened.length + height (parens tokens) = 0 ∧ ClosesAtMost opened.length tokens := by
  induction tokens generalizing opened with
  | nil =>
    have hcloses : ClosesAtMost opened.length [] := by
      rintro before behind hsplit
      obtain ⟨rfl, -⟩ := List.append_eq_nil_iff.mp hsplit.symm
      simp
    simp [unmatchedFrom, hcloses]
  | cons t tokens ih =>
    rw [parens_cons, height_append, closesAtMost_cons]
    have hnonneg : (0 : Int) ≤ opened.length := Int.natCast_nonneg _
    rcases t.paren_cases with ht | ht | ht
    · rw [unmatchedFrom_open ht, ih, Token.paren?_open ht, Option.toList_some, height_cons,
        parenWeight_open, height_nil, List.length_cons, Int.natCast_succ, Int.add_zero,
        ← Int.add_assoc]
      exact and_congr_right fun _ => (and_iff_right hnonneg).symm
    · rw [Token.paren?_close ht, Option.toList_some, height_cons, parenWeight_close, height_nil,
        Int.add_zero, ← Int.add_assoc]
      cases opened with
      | nil =>
        rw [unmatchedFrom_nil_close ht]
        refine iff_of_false (by simp) fun ⟨_, _, hcloses⟩ => ?_
        exact absurd hcloses.nonneg (by decide)
      | cons paren opened =>
        have hpopped : ((paren :: opened).length : Int) + -1 = opened.length := by simp
        rw [unmatchedFrom_close ht, ih, hpopped]
        exact and_congr_right fun _ => (and_iff_right hnonneg).symm
    · obtain ⟨ho, hc⟩ := Bool.or_eq_false_iff.mp ht
      rw [unmatchedFrom_of_not_isParen ht, ih, Token.paren?_none ho hc, Option.toList_none,
        height_nil, Int.zero_add, Int.add_zero]
      exact and_congr_right fun _ => (and_iff_right hnonneg).symm

theorem unmatched_eq_nil_iff : unmatched tokens = [] ↔ Balanced (parens tokens) := by
  have h := @unmatchedFrom_eq_nil_iff [] tokens
  rw [List.length_nil, Nat.cast_zero, Int.zero_add] at h
  rw [unmatched, h, balanced_iff_closesAtMost]

end Stack

/-! ### Sources -/

theorem mem_charactersFrom {offset : Nat} {cs : List Char} {t : Token}
    (h : t ∈ charactersFrom offset cs) :
    ∃ c i, t = .char c (some ((offset + i : Nat) : Int)) ∧ cs[i]? = some c := by
  obtain ⟨⟨c, j⟩, hmem, rfl⟩ := List.mem_map.mp h
  obtain ⟨hle, hget⟩ := List.mk_mem_zipIdx_iff_le_and_getElem?_sub.mp hmem
  exact ⟨c, j - offset, by simp [Nat.add_sub_cancel' hle], hget⟩

theorem parens_charactersFrom (offset : Nat) (cs : List Char) :
    parens (charactersFrom offset cs) = parens (cs.map Token.sign) := by
  induction cs generalizing offset with
  | nil => rfl
  | cons c cs ih =>
    have hcons : charactersFrom offset (c :: cs) =
        .char c (some offset) :: charactersFrom (offset + 1) cs := rfl
    rw [hcons, List.map_cons, parens_cons, parens_cons, ih]
    rfl

/-- Blanks are no parentheses. -/
theorem filter_isParen_tokensFrom (offset : Nat) (cs : List Char) :
    (tokensFrom offset cs).filter Token.isParen =
      (charactersFrom offset cs).filter Token.isParen := by
  induction cs generalizing offset with
  | nil => rfl
  | cons c cs ih =>
    have hcons : charactersFrom offset (c :: cs) =
        .char c (some offset) :: charactersFrom (offset + 1) cs := rfl
    rw [hcons, tokensFrom, List.filter_cons, ← ih]
    split
    · rename_i hblank
      have hparen : (Token.char c (some offset)).isParen = false := by
        simp only [Token.isParen, Token.isChar_char, Bool.or_eq_false_iff, decide_eq_false_iff_not]
        constructor <;> rintro rfl <;> exact absurd hblank (by decide)
      rw [if_neg (by simp [hparen])]
    · rw [List.filter_cons]

theorem unmatched_tokenize (source : String) :
    unmatched (tokenize source) = unmatched (characters source) := by
  rw [unmatched, unmatched, ← unmatchedFrom_filter, ← unmatchedFrom_filter [] (characters source),
    tokenize, filter_isParen_tokensFrom, characters]

theorem unmatched_characters_eq_nil_iff {source : String} :
    unmatched (characters source) = [] ↔ Balanced source.toList := by
  rw [unmatched_eq_nil_iff, characters, parens_charactersFrom, balanced_parens_iff]

theorem unmatched_readNumbers {tokens numbers : List Token}
    (h : readNumbers tokens = .ok numbers) : unmatched numbers = unmatched tokens := by
  have hdigit : ∀ t : Token, t.isDigit = true → Option.guard Token.isParen t = none := by
    intro t ht
    have hparen : t.isParen = false := by
      rw [Token.isParen, Token.isChar_of_isDigit (by decide) ht,
        Token.isChar_of_isDigit (by decide) ht]
      rfl
    simp [hparen]
  have hfilter := filterMap_readNumbers hdigit (fun _ => rfl) h
  rw [List.filterMap_eq_filter] at hfilter
  rw [unmatched, unmatched, ← unmatchedFrom_filter, hfilter, unmatchedFrom_filter]

/-! ### Errors -/

/-- An error for a parenthesis blames an unmatched one, which is the first one if it closes a
group. -/
def Failure.BlamesUnmatched (left : List Token) : Failure → Prop
  | .evaluation e => e.kind = .unbalancedParens →
      ∃ t ∈ left, e.token = some t ∧ (t.isChar ')' = true → left.head? = some t)
  | _ => True

section Runs

variable {left : List Token}

/-- Where no parenthesis closes and those that open are unmatched, errors blame unmatched ones. -/
theorem inherited_unmatched {good : Token → Prop} (hn : ∀ n, good (.number n))
    (hd : ∀ digits, good (.numeral digits)) (hclose : ∀ t, good t → t.isChar ')' = false)
    (hopen : ∀ t, good t → t.isChar '(' = true → t ∈ left) :
    Inherited good (Failure.BlamesUnmatched left) where
  number := hn
  joined _ _ _ _ := hd _
  unreadable _ _ _ := trivial
  blamed := by
    intro t cause ht hfits hkind
    cases cause with
    | unmatchedOpen =>
      refine ⟨t, hopen t ht hfits, rfl, fun hc => ?_⟩
      rw [hclose t ht] at hc
      cases hc
    | unmatchedClose =>
      have hc : t.isChar ')' = true := hfits
      rw [hclose t ht] at hc
      cases hc
    | reported kind message => exact hfits.elim
    | _ => cases hkind
  empty hkind := by cases hkind
  overflow _ := trivial
  unwritable := trivial

/-- Groups are run on lists without parentheses; what is left when they have been run has the
opening ones that are unmatched. -/
def matching (left : List Token) : Contract where
  env := fun _ => True
  list := fun flat => Lacks ')' flat ∧ flat.filter (Token.isChar '(') = left
  group := Every (Inner fun _ => True)
  result := fun _ => Every (Inner fun _ => True)
  fails := Failure.BlamesUnmatched left

theorem matching_groupPlan (tokens : List Token) :
    (groupPlan [] tokens).Obeys (matching (unmatched tokens)) := by
  -- what is open on the output is the stack that the rest of the tokens finds
  let inv : List Token → List Token → Prop := fun output rest =>
    Lacks ')' output ∧ unmatchedFrom (output.filter (Token.isChar '(')) rest = unmatched tokens
  have hany : ∀ tokens : List Token, Every (fun _ => True) tokens := fun _ _ _ => trivial
  refine obeys_groupPlan_of inv ?done ?push ?unmatched ?close ⟨.nil, rfl⟩
  case done =>
    rintro output ⟨hlacks, hleft⟩
    refine ⟨hlacks.reverse, ?_⟩
    rw [List.filter_reverse]
    exact hleft
  case push =>
    rintro output t rest ht ⟨hlacks, hleft⟩
    refine ⟨hlacks.cons ht, ?_⟩
    rw [← hleft, List.filter_cons]
    split
    · rename_i ho
      exact (unmatchedFrom_open ho).symm
    · rename_i ho
      exact (unmatchedFrom_of_not_isParen (by simp [Token.isParen, ho, ht])).symm
  case unmatched =>
    rintro output t rest ht hnone ⟨-, hleft⟩ -
    rw [List.filter_eq_nil_iff.mpr (by simpa using hnone), unmatchedFrom_nil_close ht] at hleft
    rw [← hleft]
    exact ⟨t, List.mem_cons_self, rfl, fun _ => rfl⟩
  case close =>
    rintro group below paren t rest ht hparen hgroup ⟨hlacks, hleft⟩
    refine ⟨every_inner_group hgroup (hany _) hlacks, fun result hresult => ?_⟩
    refine ⟨(every_replaced (hany _) hlacks hresult).2, ?_⟩
    have hopens : result.reverse.filter (Token.isChar '(') = [] :=
      List.filter_eq_nil_iff.mpr fun u hu => by simp [(hresult u (List.mem_reverse.mp hu)).2.1]
    have hopensGroup : group.filter (Token.isChar '(') = [] :=
      List.filter_eq_nil_iff.mpr (by simpa using hgroup)
    rw [List.filter_append, hopensGroup, List.nil_append, List.filter_cons_of_pos hparen,
      unmatchedFrom_close ht] at hleft
    rw [List.filter_append, hopens, List.nil_append]
    exact hleft

/-- What is left when groups have been run comes to a number only if nothing is unmatched. -/
theorem meets_value_of_flat {flat : List Token} (hclose : Lacks ')' flat)
    (hleft : flat.filter (Token.isChar '(') = left) :
    Meets (fun _ => left = []) (Failure.BlamesUnmatched left) (reduce flat >>= finalValue) := by
  let good : Token → Prop := fun t => t.isChar ')' = false ∧ (t.isChar '(' = true → t ∈ left)
  have H : Inherited good (Failure.BlamesUnmatched left) :=
    inherited_unmatched (fun _ => ⟨rfl, nofun⟩) (fun _ => ⟨rfl, nofun⟩) (fun _ h => h.1)
      fun _ h => h.2
  have hflat : Every good flat := fun t ht =>
    ⟨hclose t ht, fun ho => hleft ▸ List.mem_filter.mpr ⟨ht, ho⟩⟩
  have hreduced : Meets (Every good) (Failure.BlamesUnmatched left) (reduce flat) :=
    (H.foldProducts (H.applySigns hflat)).bind fun _ h => H.foldSums h
  refine Meets.of_ok (hreduced.bind fun _ h => H.finalValue h) fun n hn => ?_
  have hnumber : reduce flat = .ok [.number n] := value_eq_ok_iff.mp hn
  have hopen : Lacks '(' flat := (arePlain_of_reduce hnumber).noOpen
  rw [← hleft]
  exact List.filter_eq_nil_iff.mpr fun t ht => by simp [hopen t ht]

theorem meets_readNumbers (tokens : List Token) :
    Meets (fun numbers => unmatched numbers = unmatched tokens)
      (Failure.BlamesUnmatched (unmatched tokens)) (readNumbers tokens) := by
  have hread : Meets (Every fun _ => True) (Failure.BlamesUnmatched (unmatched tokens))
      (readNumbers tokens) := by
    refine Meets.mapM fun t _ => ?_
    rw [readDigits]
    split
    · trivial
    · split
      · trivial
      · trivial
  exact hread.of_ok fun _ => unmatched_readNumbers

theorem meets_value (depth : Nat) (tokens : List Token) :
    Meets (fun _ => unmatched tokens = []) (Failure.BlamesUnmatched (unmatched tokens)) (do
      let reduced ← evaluateWithin id (depth + 1) tokens
      finalValue reduced) := by
  have H : Inherited (Inner fun _ => True) (Failure.BlamesUnmatched (unmatched tokens)) := by
    refine inherited_unmatched (fun _ => ⟨trivial, rfl, rfl⟩) (fun _ => ⟨trivial, rfl, rfl⟩)
      (fun _ h => h.2.2) fun t h ho => ?_
    rw [h.2.1] at ho
    cases ho
  have hgroup : ∀ group, Every (Inner fun _ => True) group →
      Meets (Every (Inner fun _ => True)) (Failure.BlamesUnmatched (unmatched tokens))
        (evaluateWithin id depth group) :=
    fun group hg => H.evaluateWithin trivial (fun _ h => h) depth hg
  rw [evaluateWithin, arithmetic, bind_assoc]
  refine (meets_readNumbers tokens).bind fun numbers hnumbers => ?_
  rw [bind_assoc]
  have hplan := matching_groupPlan numbers
  rw [hnumbers] at hplan
  exact (hplan.meets hgroup).bind fun flat hflat => meets_value_of_flat hflat.1 hflat.2

end Runs

namespace Session

/-- Parenthesis errors of plain arithmetic are exact.  A source with an unmatched parenthesis has no
value; an error for a parenthesis points at an unmatched one at its own place, and at the first of
them if that one closes a group; and a balanced source never fails for a parenthesis. -/
theorem unmatched_of_compute {s : Session} (hs : s.pipeline = .standard) (source : String) :
    let outcome := ((compute source).result s).1
    let left := unmatched (characters source)
    (left ≠ [] → ∀ n, outcome ≠ .ok n) ∧
      (∀ e, outcome = .error (.evaluation e) → e.kind = .unbalancedParens →
        ∃ c p, (c = '(' ∨ c = ')') ∧ StandsAt source c p ∧
          e.token = some (.char c (some p)) ∧ .char c (some p) ∈ left ∧
          (c = ')' → left.head? = some (.char c (some p)))) ∧
      (Balanced source.toList →
        ∀ e, outcome = .error (.evaluation e) → e.kind ≠ .unbalancedParens) := by
  intro outcome left
  have hmeets : Meets (fun _ => left = []) (Failure.BlamesUnmatched left) outcome := by
    have hrun := meets_value ((tokenize source).length + 249) (tokenize source)
    rw [unmatched_tokenize] at hrun
    simp only [outcome, result_compute_standard hs]
    exact hrun
  have hblamed : ∀ e, outcome = .error (.evaluation e) → e.kind = .unbalancedParens →
      ∃ t ∈ left, e.token = some t ∧ (t.isChar ')' = true → left.head? = some t) := by
    intro e he
    rw [he] at hmeets
    exact hmeets
  refine ⟨fun hleft n hn => hleft (hmeets.ok hn), fun e he hkind => ?_,
    fun hbalanced e he hkind => ?_⟩
  · obtain ⟨t, ht, htoken, hfirst⟩ := hblamed e he hkind
    obtain ⟨hmem, hparen⟩ := (mem_of_mem_unmatchedFrom ht).resolve_left List.not_mem_nil
    obtain ⟨c, i, rfl, hc⟩ := mem_charactersFrom hmem
    rw [Nat.zero_add] at ht htoken hfirst
    exact ⟨c, i, by simpa [Token.isParen] using hparen, ⟨i, rfl, hc⟩, htoken, ht,
      fun hclose => hfirst (by simp [hclose])⟩
  · obtain ⟨t, ht, -⟩ := hblamed e he hkind
    have hnone : left = [] := unmatched_characters_eq_nil_iff.mpr hbalanced
    rw [hnone] at ht
    cases ht

/-- The second group is closed twice before a third one is left open. -/
theorem unmatched_of_compute_closedTwice :
    let s := Session.start { hasVariables := false }
    s.pipeline = .standard ∧
      ∃ p, ((compute "(1)+(2))*(3").result s).1 =
          .error (.at .unmatchedClose (.char ')' (some p))) ∧
        (unmatched (characters "(1)+(2))*(3")).head? = some (.char ')' (some p)) := by
  intro s
  have hs : s.pipeline = .standard := rfl
  have hcompute : ((compute "(1)+(2))*(3").result s).1 =
      .error (.evaluation ⟨.unmatchedClose, some (.char ')' (some 7))⟩) := by decide +kernel
  obtain ⟨-, hblamed, -⟩ := unmatched_of_compute hs "(1)+(2))*(3"
  obtain ⟨c, p, -, -, htoken, -, hfirst⟩ := hblamed _ hcompute rfl
  obtain ⟨rfl, hp⟩ := Token.char.inj (Option.some.inj htoken)
  exact ⟨hs, 7, hcompute, by rw [hfirst rfl, hp]⟩

end Session

end Calculator
