import Calculator.Proofs.Balance
import Calculator.Proofs.Inheritance
import Calculator.Proofs.Survival

/-! Nesting of tokens.  The parentheses on the output of a run over groups are those that the tokens
have opened so far, since no run of a group leaves one; so a text that comes to a number is
balanced.  Where no more groups are closed than are opened, the run does not reach below the output
that it starts with, and it is the same run inside a group. -/

namespace Calculator

/-- The parenthesis that a token is. -/
def Token.paren? : Token → Option Char
  | .char c _ => if c = '(' ∨ c = ')' then some c else none
  | _ => none

def parens (tokens : List Token) : List Char := tokens.filterMap Token.paren?

/-! ### Parentheses of tokens -/

namespace Token

variable {t : Token}

theorem paren?_open (h : t.isChar '(' = true) : t.paren? = some '(' := by
  obtain ⟨p, rfl⟩ := isChar_iff.mp h
  rfl

theorem paren?_close (h : t.isChar ')' = true) : t.paren? = some ')' := by
  obtain ⟨p, rfl⟩ := isChar_iff.mp h
  rfl

theorem paren?_none (ho : t.isChar '(' = false) (hc : t.isChar ')' = false) : t.paren? = none := by
  cases t with
  | char c p =>
    have hne : ¬(c = '(' ∨ c = ')') := by simpa using And.intro ho hc
    rw [paren?, if_neg hne]
  | _ => rfl

theorem paren?_of_isDigit (h : t.isDigit = true) : t.paren? = none :=
  paren?_none (isChar_of_isDigit (by decide) h) (isChar_of_isDigit (by decide) h)

theorem paren?_withoutOffset (t : Token) : t.withoutOffset.paren? = t.paren? := by
  cases t <;> rfl

end Token

@[simp] theorem parens_nil : parens [] = [] := rfl

theorem parens_append (first second : List Token) :
    parens (first ++ second) = parens first ++ parens second := List.filterMap_append

theorem parens_cons (t : Token) (tokens : List Token) :
    parens (t :: tokens) = t.paren?.toList ++ parens tokens := filterMap_cons_toList _ t tokens

theorem parens_withoutOffsets (tokens : List Token) :
    parens (withoutOffsets tokens) = parens tokens := by
  rw [parens, parens, withoutOffsets, List.filterMap_map]
  exact List.filterMap_congr fun t _ => t.paren?_withoutOffset

/-- Reading the numbers leaves the parentheses. -/
theorem parens_readNumbers {tokens numbers : List Token} (h : readNumbers tokens = .ok numbers) :
    parens numbers = parens tokens :=
  filterMap_readNumbers (fun _ => Token.paren?_of_isDigit) (fun _ => rfl) h

/-- Only parentheses count for balance. -/
theorem balanced_parens_iff {cs : List Char} :
    Balanced (parens (cs.map Token.sign)) ↔ Balanced cs := by
  have hheight : ∀ ds : List Char, height (parens (ds.map Token.sign)) = height ds := by
    intro ds
    induction ds with
    | nil => rfl
    | cons d ds ih =>
      rw [List.map_cons, parens_cons, height_append, ih, height_cons, Token.sign, Token.paren?]
      by_cases hd : d = '(' ∨ d = ')'
      · rw [if_pos hd, Option.toList_some, height_cons, height_nil]
        omega
      · obtain ⟨ho, hc⟩ := not_or.mp hd
        rw [if_neg hd, Option.toList_none, height_nil, parenWeight_of_ne ho hc]
  constructor
  · intro h
    refine ⟨(hheight cs).symm.trans h.total, ?_⟩
    rintro p q rfl
    have hprefix := h.nonneg (parens (p.map Token.sign)) (parens (q.map Token.sign))
      (by rw [List.map_append, parens_append])
    rwa [hheight] at hprefix
  · intro h
    refine ⟨(hheight cs).trans h.total, fun p q hp => ?_⟩
    obtain ⟨before, behind, hsplit, rfl, -⟩ := List.filterMap_eq_append_iff.mp hp
    obtain ⟨p, q, rfl, rfl, -⟩ := List.map_eq_append_iff.mp hsplit
    exact (hheight p).symm ▸ h.nonneg p q rfl

/-- At no point are more groups closed than `k` and those that have been opened. -/
def ClosesAtMost (k : Int) (tokens : List Token) : Prop :=
  ∀ before behind, tokens = before ++ behind → 0 ≤ k + height (parens before)

theorem closesAtMost_cons {k : Int} {t : Token} {tokens : List Token} :
    ClosesAtMost k (t :: tokens) ↔ 0 ≤ k ∧ ClosesAtMost (k + height t.paren?.toList) tokens := by
  have hcons : ∀ before, k + height (parens (t :: before)) =
      k + height t.paren?.toList + height (parens before) := by
    intro before
    rw [parens_cons, height_append]
    omega
  constructor
  · intro h
    have hnil := h [] (t :: tokens) rfl
    refine ⟨by simpa using hnil, ?_⟩
    rintro before behind rfl
    rw [← hcons]
    exact h (t :: before) behind rfl
  · rintro ⟨hk, h⟩ before behind hsplit
    rcases List.cons_eq_append_iff.mp hsplit with ⟨rfl, -⟩ | ⟨before, rfl, hrest⟩
    · simpa using hk
    · rw [hcons]
      exact h before behind hrest

theorem ClosesAtMost.nonneg {k : Int} {tokens : List Token} (h : ClosesAtMost k tokens) :
    0 ≤ k := by
  have hnil := h [] tokens rfl
  simpa using hnil

theorem balanced_iff_closesAtMost {tokens : List Token} :
    Balanced (parens tokens) ↔ height (parens tokens) = 0 ∧ ClosesAtMost 0 tokens := by
  constructor
  · refine fun h => ⟨h.total, ?_⟩
    rintro before behind rfl
    rw [parens_append] at h
    have hprefix := h.nonneg (parens before) (parens behind) rfl
    omega
  · rintro ⟨htotal, h⟩
    refine ⟨htotal, fun p q hp => ?_⟩
    obtain ⟨before, behind, rfl, rfl, -⟩ := List.filterMap_eq_append_iff.mp hp
    have hprefix := h before behind rfl
    rwa [Int.zero_add] at hprefix

/-! ### Parentheses on the output -/

/-- The number of groups that are open on an output. -/
def openCount (tokens : List Token) : Nat := tokens.countP (Token.isChar '(')

@[simp] theorem openCount_cons (t : Token) (tokens : List Token) :
    openCount (t :: tokens) = openCount tokens + if t.isChar '(' = true then 1 else 0 :=
  List.countP_cons

@[simp] theorem openCount_append (first second : List Token) :
    openCount (first ++ second) = openCount first + openCount second := List.countP_append

@[simp] theorem openCount_reverse (tokens : List Token) :
    openCount tokens.reverse = openCount tokens := List.countP_reverse

theorem openCount_eq_zero_iff {tokens : List Token} : openCount tokens = 0 ↔ Lacks '(' tokens := by
  rw [openCount, List.countP_eq_zero]
  simp [Lacks]

theorem openCount_push {t : Token} (ht : t.isChar ')' = false) (output : List Token) :
    (openCount (t :: output) : Int) = openCount output + height t.paren?.toList := by
  rw [openCount_cons]
  by_cases hopen : t.isChar '(' = true
  · rw [if_pos hopen, Token.paren?_open hopen]
    rfl
  · rw [if_neg hopen, Token.paren?_none (by simpa using hopen) ht]
    rfl

/-! ### Runs over groups -/

/-- A token that is as `good` says and no parenthesis. -/
def Inner (good : Token → Prop) (t : Token) : Prop :=
  good t ∧ t.isChar '(' = false ∧ t.isChar ')' = false

section Groups

variable {good : Token → Prop} {inner inner' : List Token → Except Failure (List Token)}

theorem every_inner {tokens : List Token} (h : Every good tokens) (ho : Lacks '(' tokens)
    (hc : Lacks ')' tokens) : Every (Inner good) tokens := fun t ht => ⟨h t ht, ho t ht, hc t ht⟩

/-- Only names need to be looked at. -/
theorem inherited_inner_of (hn : ∀ t : Token, t.isName = false → good t) :
    Inherited (Inner good) fun _ => True :=
  inherited_of_made (fun _ => ⟨hn _ rfl, rfl, rfl⟩) fun _ => ⟨hn _ rfl, rfl, rfl⟩

section Output

variable {group below : List Token} {paren : Token} (hgroup : Lacks '(' group)
  (ho : Every good (group ++ paren :: below)) (hc : Lacks ')' (group ++ paren :: below))
include ho hc

include hgroup in
/-- The group on top of an output. -/
theorem every_inner_group : Every (Inner good) group.reverse :=
  every_inner (every_reverse (List.forall_mem_append.mp ho).1) hgroup.reverse
    (Lacks.reverse (List.forall_mem_append.mp hc).1)

/-- The output with the group on top replaced. -/
theorem every_replaced {result : List Token} (hresult : Every (Inner good) result) :
    Every good (result.reverse ++ below) ∧ Lacks ')' (result.reverse ++ below) := by
  have hcloses : Lacks ')' result := fun u hu => (hresult u hu).2.2
  have hgood : Every good result := fun u hu => (hresult u hu).1
  obtain ⟨-, hbelow⟩ := List.forall_mem_append.mp ho
  obtain ⟨-, hbelowClose⟩ := List.forall_mem_append.mp hc
  exact ⟨List.forall_mem_append.mpr ⟨every_reverse hgood, (List.forall_mem_cons.mp hbelow).2⟩,
    hcloses.reverse.append (List.forall_mem_cons.mp hbelowClose).2⟩

end Output

/-- A group that is replaced is open no more. -/
theorem openCount_replaced {group below result : List Token} {paren : Token}
    (hgroup : Lacks '(' group) (hparen : paren.isChar '(' = true)
    (hresult : Every (Inner good) result) :
    openCount (group ++ paren :: below) = openCount (result.reverse ++ below) + 1 := by
  have hlacks : Lacks '(' result := fun u hu => (hresult u hu).2.1
  rw [openCount_append, openCount_eq_zero_iff.mpr hgroup, openCount_cons, if_pos hparen,
    openCount_append, openCount_reverse, openCount_eq_zero_iff.mpr hlacks]
  omega

section Trace

variable (hinner : ∀ group, Every (Inner good) group →
    Meets (Every (Inner good)) (fun _ => True) (inner group))
  {output tokens flat : List Token} (h : GroupTrace inner output tokens flat)
  (ho : Every good output) (hc : Lacks ')' output) (ht : Every good tokens)
include hinner h ho hc ht

theorem every_groups : Every good flat ∧ Lacks ')' flat := by
  induction h with
  | done output => exact ⟨every_reverse ho, hc.reverse⟩
  | push notClose _ ih =>
    obtain ⟨hgood, ht⟩ := List.forall_mem_cons.mp ht
    exact ih (List.forall_mem_cons.mpr ⟨hgood, ho⟩) (hc.cons notClose) ht
  | close _ _ content run _ ih =>
    have hresult := (hinner _ (every_inner_group content ho hc)).ok run
    obtain ⟨houtput, houtputClose⟩ := every_replaced ho hc hresult
    exact ih houtput houtputClose (List.forall_mem_cons.mp ht).2

/-- A run over groups leaves open what the tokens leave open, and they close no others. -/
theorem openCount_groups :
    (openCount flat : Int) = openCount output + height (parens tokens) ∧
      ClosesAtMost (openCount output) tokens := by
  induction h with
  | done output =>
    refine ⟨by simp, fun before behind hsplit => ?_⟩
    obtain ⟨rfl, -⟩ := List.append_eq_nil_iff.mp hsplit.symm
    simp
  | @push t output tokens flat notClose _ ih =>
    obtain ⟨hgood, ht⟩ := List.forall_mem_cons.mp ht
    obtain ⟨hcount, hcloses⟩ := ih (List.forall_mem_cons.mpr ⟨hgood, ho⟩) (hc.cons notClose) ht
    rw [openCount_push notClose] at hcount hcloses
    refine ⟨?_, closesAtMost_cons.mpr ⟨by omega, hcloses⟩⟩
    rw [hcount, parens_cons, height_append, Int.add_assoc]
  | @close t paren group below result tokens flat isClose isOpen content run _ ih =>
    -- the result opens nothing, so that one group fewer is open behind it
    have hresult := (hinner _ (every_inner_group content ho hc)).ok run
    obtain ⟨houtput, houtputClose⟩ := every_replaced ho hc hresult
    obtain ⟨hcount, hcloses⟩ := ih houtput houtputClose (List.forall_mem_cons.mp ht).2
    have hweight : height t.paren?.toList = -1 := by
      rw [Token.paren?_close isClose]
      rfl
    have hopen : (openCount (group ++ paren :: below) : Int) + height t.paren?.toList =
        openCount (result.reverse ++ below) := by
      rw [openCount_replaced content isOpen hresult, hweight]
      omega
    rw [← hopen] at hcount hcloses
    refine ⟨?_, closesAtMost_cons.mpr ⟨by omega, hcloses⟩⟩
    rw [hcount, parens_cons, height_append, Int.add_assoc]

end Trace

/-- Where no more groups are closed than are open on an output, what lies below it is not reached,
and the groups have the same runs with another way to run them that agrees on their contents. -/
theorem groups_below
    (hinner : ∀ group, Every (Inner good) group →
      inner' group = inner group ∧ Meets (Every (Inner good)) (fun _ => True) (inner group))
    {output tokens : List Token} (ho : Every good output) (hc : Lacks ')' output)
    (ht : Every good tokens) (hn : ClosesAtMost (openCount output) tokens)
    (base rest : List Token) :
    (groupPlan (output ++ base) (tokens ++ rest)).carryOut inner' = (do
      let mid ← (groupPlan output tokens).carryOut inner
      (groupPlan (mid.reverse ++ base) rest).carryOut inner') := by
  -- at each token the output has at least the groups open that the rest may close
  induction tokens generalizing output with
  | nil =>
    rw [List.nil_append, groupPlan, Plan.carryOut_done]
    change _ = (groupPlan (output.reverse.reverse ++ base) rest).carryOut inner'
    rw [List.reverse_reverse]
  | cons t tokens ih =>
    obtain ⟨hgood, ht⟩ := List.forall_mem_cons.mp ht
    by_cases hclose : t.isChar ')' = true
    · obtain ⟨-, hcloses⟩ := closesAtMost_cons.mp hn
      rw [Token.paren?_close hclose, Option.toList_some, height_cons, parenWeight_close, height_nil]
        at hcloses
      cases hopen : openGroup? output with
      | none =>
        have hlacks : Lacks '(' output := openGroup?_eq_none_iff.mp hopen
        have hnonneg := hcloses.nonneg
        rw [openCount_eq_zero_iff.mpr hlacks] at hnonneg
        omega
      | some content =>
        obtain ⟨group, below⟩ := content
        obtain ⟨paren, hparen, rfl, hgroup⟩ := openGroup?_eq_some hopen
        obtain ⟨hsame, hkeeps⟩ := hinner group.reverse (every_inner_group hgroup ho hc)
        rw [List.append_assoc, List.cons_append, List.cons_append,
          groups_close hgroup hparen hclose, groups_close hgroup hparen hclose, hsame, bind_assoc]
        cases hrun : inner group.reverse with
        | error f => rfl
        | ok result =>
          have hresult : Every (Inner good) result := hkeeps.ok hrun
          obtain ⟨houtput, houtputClose⟩ := every_replaced ho hc hresult
          have hcount : (openCount (group ++ paren :: below) : Int) + (-1 + 0) =
              openCount (result.reverse ++ below) := by
            rw [openCount_replaced hgroup hparen hresult]
            omega
          rw [hcount] at hcloses
          rw [Except.ok_bind, Except.ok_bind, ← List.append_assoc]
          exact ih houtput houtputClose ht hcloses
    · have hclose : t.isChar ')' = false := by simpa using hclose
      have hpush : ∀ output tokens (inner : List Token → Except Failure (List Token)),
          (groupPlan output (t :: tokens)).carryOut inner =
            (groupPlan (t :: output) tokens).carryOut inner := by
        intro output tokens inner
        rw [groupPlan, if_neg (by simp [hclose])]
      rw [List.cons_append, hpush, hpush, ← List.cons_append]
      refine ih (List.forall_mem_cons.mpr ⟨hgood, ho⟩) (hc.cons hclose) ht ?_
      rw [openCount_push hclose]
      exact (closesAtMost_cons.mp hn).2

end Groups

/-- The parentheses of a text match when it comes to a number. -/
theorem balanced_of_evaluateWithin {cs : List Char} {depth : Nat} {n : Number}
    (h : evaluateWithin id (depth + 1) (cs.map Token.sign) = .ok [.number n]) : Balanced cs := by
  obtain ⟨numbers, hnumbers, h⟩ := Except.bind_eq_ok_iff.mp h
  obtain ⟨flat, hflat, hreduce⟩ := Except.bind_eq_ok_iff.mp h
  have hinner : ∀ group, Every (Inner fun _ => True) group →
      Meets (Every (Inner fun _ => True)) (fun _ => True) (evaluateWithin id depth group) :=
    fun group hg =>
      (inherited_inner_of fun _ _ => trivial).evaluateWithin trivial (fun _ ht => ht) depth hg
  obtain ⟨hcount, hcloses⟩ := openCount_groups hinner (groupTrace_of_carryOut hflat)
    (List.forall_mem_nil _) .nil fun _ _ => trivial
  have hempty : (openCount [] : Int) = 0 := rfl
  rw [openCount_eq_zero_iff.mpr (arePlain_of_reduce hreduce).noOpen, hempty] at hcount
  have htotal : height (parens numbers) = 0 := by omega
  have hbalanced := balanced_iff_closesAtMost.mpr ⟨htotal, hcloses⟩
  rw [parens_readNumbers hnumbers] at hbalanced
  exact balanced_parens_iff.mp hbalanced

end Calculator
