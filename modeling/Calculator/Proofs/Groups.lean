import Calculator.Arithmetic.Brackets
import Calculator.Proofs.Chain

/-! Runs over groups.  A run that succeeds is a trace of its steps: a token goes to the output, or a
closing parenthesis has the group on top of the output run. -/

namespace Calculator

/-- No token is the character `c`. -/
def Lacks (c : Char) (tokens : List Token) : Prop := ∀ t ∈ tokens, t.isChar c = false

namespace Lacks

variable {c : Char} {tokens tokens' : List Token}

theorem nil : Lacks c [] := fun _ h => absurd h List.not_mem_nil

theorem cons {t : Token} (ht : t.isChar c = false) (h : Lacks c tokens) : Lacks c (t :: tokens) :=
  List.forall_mem_cons.mpr ⟨ht, h⟩

theorem single {t : Token} (ht : t.isChar c = false) : Lacks c [t] := nil.cons ht

theorem append (h : Lacks c tokens) (h' : Lacks c tokens') : Lacks c (tokens ++ tokens') :=
  List.forall_mem_append.mpr ⟨h, h'⟩

theorem reverse (h : Lacks c tokens) : Lacks c tokens.reverse :=
  fun t ht => h t (List.mem_reverse.mp ht)

end Lacks

/-- Nothing above an opening parenthesis opens a group. -/
theorem openGroup?_append {group : List Token} (h : Lacks '(' group) {paren : Token}
    (hparen : paren.isChar '(' = true) (below : List Token) :
    openGroup? (group ++ paren :: below) = some (group, below) := by
  induction group with
  | nil => rw [List.nil_append, openGroup?, if_pos hparen]
  | cons t group ih =>
    obtain ⟨ht, h⟩ := List.forall_mem_cons.mp h
    rw [List.cons_append, openGroup?, if_neg (by simp [ht]), ih h]
    rfl

section Groups

variable {inner : List Token → Except Failure (List Token)}

theorem groups_char {c : Char} (hc : c ≠ ')') (output tokens : List Token) :
    (groupPlan output (.sign c :: tokens)).carryOut inner =
      (groupPlan (.sign c :: output) tokens).carryOut inner := by
  simp [groupPlan, Token.sign, hc]

/-- The end of a group has its content run. -/
theorem groups_close {group : List Token} (h : Lacks '(' group) {paren t : Token}
    (hparen : paren.isChar '(' = true) (ht : t.isChar ')' = true) (below tokens : List Token) :
    (groupPlan (group ++ paren :: below) (t :: tokens)).carryOut inner = (do
      let result ← inner group.reverse
      (groupPlan (result.reverse ++ below) tokens).carryOut inner) := by
  rw [groupPlan, if_pos ht, openGroup?_append h hparen]
  rfl

theorem groups_of_noClose {tokens : List Token} (h : Lacks ')' tokens)
    (inner : List Token → Except Failure (List Token)) (output : List Token) :
    (groupPlan output tokens).carryOut inner = .ok (output.reverse ++ tokens) := by
  induction tokens generalizing output with
  | nil => simp [groupPlan, pure, Except.pure]
  | cons t tokens ih =>
    obtain ⟨ht, h⟩ := List.forall_mem_cons.mp h
    rw [groupPlan, if_neg (by simp [ht]), ih h]
    simp

/-- The runs over groups that succeed: what `inner` makes of a group takes the place of the group
and its parentheses. -/
inductive GroupTrace (inner : List Token → Except Failure (List Token)) :
    List Token → List Token → List Token → Prop
  | done (output : List Token) : GroupTrace inner output [] output.reverse
  | push {t : Token} {output tokens flat : List Token} (notClose : t.isChar ')' = false)
      (rest : GroupTrace inner (t :: output) tokens flat) :
      GroupTrace inner output (t :: tokens) flat
  | close {t paren : Token} {group below result tokens flat : List Token}
      (isClose : t.isChar ')' = true) (isOpen : paren.isChar '(' = true) (content : Lacks '(' group)
      (run : inner group.reverse = .ok result)
      (rest : GroupTrace inner (result.reverse ++ below) tokens flat) :
      GroupTrace inner (group ++ paren :: below) (t :: tokens) flat

theorem groupTrace_of_carryOut {output tokens flat : List Token}
    (h : (groupPlan output tokens).carryOut inner = .ok flat) :
    GroupTrace inner output tokens flat := by
  induction tokens generalizing output with
  | nil =>
    obtain rfl := Except.ok.inj h
    exact .done output
  | cons t tokens ih =>
    by_cases ht : t.isChar ')' = true
    · cases hopen : openGroup? output with
      | none =>
        rw [groupPlan, if_pos ht, hopen] at h
        cases h
      | some content =>
        obtain ⟨group, below⟩ := content
        obtain ⟨paren, hparen, rfl, hgroup⟩ := openGroup?_eq_some hopen
        rw [groups_close hgroup hparen ht] at h
        obtain ⟨result, hresult, hrest⟩ := Except.bind_eq_ok_iff.mp h
        exact .close ht hparen hgroup hresult (ih hrest)
    · rw [groupPlan, if_neg ht] at h
      exact .push (by simpa using ht) (ih h)

namespace GroupTrace

variable {output tokens flat : List Token}

theorem carryOut (h : GroupTrace inner output tokens flat) :
    (groupPlan output tokens).carryOut inner = .ok flat := by
  induction h with
  | done output => rfl
  | push notClose _ ih => rw [groupPlan, if_neg (by simp [notClose]), ih]
  | close isClose isOpen content run _ ih =>
    rw [groups_close content isOpen isClose, run, Except.ok_bind, ih]

/-- A run that succeeds does so when more runs of groups succeed. -/
theorem mono {inner' : List Token → Except Failure (List Token)}
    (hinner : ∀ tokens result, inner tokens = .ok result → inner' tokens = .ok result)
    (h : GroupTrace inner output tokens flat) : GroupTrace inner' output tokens flat := by
  induction h with
  | done output => exact .done output
  | push notClose _ ih => exact .push notClose ih
  | close isClose isOpen content run _ ih =>
    exact .close isClose isOpen content (hinner _ _ run) ih

/-- A run goes on from what the run over the first tokens leaves, and what lies below groups stays
there. -/
theorem append (h : GroupTrace inner output tokens flat) {base rest flat' : List Token}
    (h' : GroupTrace inner (flat.reverse ++ base) rest flat') :
    GroupTrace inner (output ++ base) (tokens ++ rest) flat' := by
  induction h with
  | done output => rwa [List.reverse_reverse] at h'
  | push notClose _ ih => exact .push notClose (ih h')
  | @close t paren group below result tokens flat isClose isOpen content run _ ih =>
    rw [List.append_assoc, List.cons_append, List.cons_append]
    refine .close isClose isOpen content run ?_
    rw [← List.append_assoc]
    exact ih h'

/-- The groups leave no closing parenthesis when their runs leave none. -/
theorem noClose (hinner : ∀ group result, Lacks ')' group → inner group = .ok result →
      Lacks ')' result) (h : GroupTrace inner output tokens flat) (ho : Lacks ')' output) :
    Lacks ')' flat := by
  induction h with
  | done output => exact ho.reverse
  | push notClose _ ih => exact ih (ho.cons notClose)
  | close isClose isOpen content run _ ih =>
    obtain ⟨hgroup, hbelow⟩ := List.forall_mem_append.mp ho
    have hresult := hinner _ _ (Lacks.reverse hgroup) run
    exact ih (hresult.reverse.append (List.forall_mem_cons.mp hbelow).2)

end GroupTrace

end Groups

end Calculator
