import Mathlib.Data.List.Forall2
import Calculator.Proofs.Comparison
import Calculator.Proofs.Evaluation

/-! Tokens that resemble each other.  Where two tokens stand for the same name, have the same text
and pass the same tests of patterns, whatever scans the lists that hold them, assigns them or looks
for groups among them treats them alike. -/

namespace Calculator

variable {R : Token → Token → Prop} {env : Environment → Environment → Prop}
  {fails : Failure → Failure → Prop}

/-- Environments that bind the same names to tokens that `R` relates, in whatever order. -/
def Environment.Bound (R : Token → Token → Prop) (env env' : Environment) : Prop :=
  ∀ name, Option.Rel R (env.get? name) (env'.get? name)

theorem Environment.Bound.insert {e e' : Environment} (h : Bound R e e') (name : String)
    {t u : Token} (ht : R t u) : Bound R (e.insert name t) (e'.insert name u) := by
  intro other
  rw [get?_insert, get?_insert]
  split
  · exact .some ht
  · exact h other

/-- What is said of two tokens, and of environments that bind such tokens. -/
structure Resemblance (R : Token → Token → Prop) (env : Environment → Environment → Prop)
    (fails : Failure → Failure → Prop) : Prop where
  keyword : R (.symbol setKeyword) (.symbol setKeyword)
  name {t u : Token} : R t u → t.name? = u.name?
  written {t u : Token} : R t u → t.written = u.written
  place {t u : Token} {p : Window.Place} : p ∈ keywordPattern ++ assignmentPattern → R t u →
    p.test t = p.test u
  bound {e e' : Environment} : env e e' → Environment.Bound R e e'
  insert {e e' : Environment} {t u : Token} (name : String) : env e e' → R t u →
    env (e.insert name t) (e'.insert name u)
  blamed {t u : Token} (cause : Cause) : R t u → fails (.at cause t) (.at cause u)
  unwritable : fails .unwritable .unwritable

/-! ### Scans -/

/-- A scan for windows goes alike when the tests do and what replaces windows does. -/
theorem alike_scanOnto {tests : List (Token → Bool)} {combine : List Token → Edit (List Token)}
    (htests : ∀ test ∈ tests, ∀ t u, R t u → test t = test u)
    (hc : ∀ window window', List.Forall₂ R window window' →
      (combine window).Alike (.ofRel env) (List.Forall₂ R) fails (combine window'))
    {output output' tokens tokens' : List Token} (ho : List.Forall₂ R output output')
    (h : List.Forall₂ R tokens tokens') :
    (Window.scanOnto tests combine output tokens).Alike (.ofRel env) (List.Forall₂ R) fails
      (Window.scanOnto tests combine output' tokens') := by
  have hfits : ∀ {window window'}, List.Forall₂ R window window' →
      Window.fits tests window = Window.fits tests window' := by
    intro window window' hw
    induction hw generalizing tests with
    | nil => rfl
    | cons ht _ ih =>
      cases tests with
      | nil => rfl
      | cons test tests =>
        obtain ⟨htest, hrest⟩ := List.forall_mem_cons.mp htests
        rw [Window.fits, Window.fits, htest _ _ ht, ih hrest]
  induction h generalizing output output' with
  | nil => exact Action.alike_pure (List.rel_reverse ho)
  | cons ht _ ih =>
    have hpush := List.Forall₂.cons ht ho
    have hwindow := List.rel_reverse (List.forall₂_take tests.length hpush)
    simp only [Window.scanOnto, hfits hwindow]
    split
    · refine (hc _ _ hwindow).bind (fun r r' hr => ih ?_) (fun _ => Action.reflects_any _)
        fun _ => Action.reflects_any _
      exact List.rel_append (List.rel_reverse hr) (List.forall₂_drop tests.length hpush)
    · exact ih hpush

/-! ### Groups -/

section Groups

variable (hopen : ∀ t u, R t u → t.isChar '(' = u.isChar '(')
include hopen

theorem openGroup?_rel {output output' : List Token} (h : List.Forall₂ R output output') :
    Option.Rel (fun x y => List.Forall₂ R x.1 y.1 ∧ List.Forall₂ R x.2 y.2) (openGroup? output)
      (openGroup? output') := by
  induction h with
  | nil => exact .none
  | @cons t u tokens tokens' ht hrest ih =>
    simp only [openGroup?, hopen t u ht]
    split
    · exact .some ⟨.nil, hrest⟩
    · generalize openGroup? tokens = x, openGroup? tokens' = y at ih ⊢
      cases ih with
      | none => exact .none
      | some h => exact .some ⟨.cons ht h.1, h.2⟩

theorem alike_groupPlan (hclose : ∀ t u, R t u → t.isChar ')' = u.isChar ')')
    (hfail : ∀ t u, R t u → fails (.at .unmatchedClose t) (.at .unmatchedClose u))
    {output output' tokens tokens' : List Token} (ho : List.Forall₂ R output output')
    (h : List.Forall₂ R tokens tokens') :
    Plan.Alike (List.Forall₂ R) (List.Forall₂ R) (List.Forall₂ R) fails (groupPlan output tokens)
      (groupPlan output' tokens') := by
  induction h generalizing output output' with
  | nil => exact .done (List.rel_reverse ho)
  | cons ht _ ih =>
    simp only [groupPlan, hclose _ _ ht]
    split
    · have hgroup := openGroup?_rel hopen ho
      generalize openGroup? output = x, openGroup? output' = y at hgroup ⊢
      cases hgroup with
      | none => exact .fail (hfail _ _ ht)
      | some h =>
        exact .run (List.rel_reverse h.1) fun r r' hr =>
          ih (List.rel_append (List.rel_reverse hr) h.2)
    · exact ih (.cons ht ho)

end Groups

/-! ### Variables -/

namespace Resemblance

variable (H : Resemblance R env fails)
include H

theorem isChar {t u : Token} (h : R t u) {c : Char} (hc : c ∈ ['(', ')']) :
    t.isChar c = u.isChar c := by
  have hplace : Window.Place.literal (.char c none) ∈ keywordPattern ++ assignmentPattern := by
    simp only [List.mem_cons, List.not_mem_nil, or_false] at hc
    rcases hc with rfl | rfl <;> simp [assignmentPattern]
  have htest := H.place hplace h
  rwa [Window.test_literal_char, Window.test_literal_char] at htest

theorem resolve {e e' : Environment} (he : env e e') {t u : Token} (h : R t u) :
    R (e.resolve t) (e'.resolve u) := by
  rw [Environment.resolve, Environment.resolve, H.name h]
  cases u.name? with
  | none => exact h
  | some name =>
    have hbound := H.bound he name
    simp only
    generalize e.get? name = x, e'.get? name = y at hbound ⊢
    cases hbound with
    | none => exact h
    | some hxy => exact hxy

theorem tests {pattern : List Window.Place} (hp : pattern ⊆ keywordPattern ++ assignmentPattern) :
    ∀ test ∈ pattern.map Window.Place.test, ∀ t u, R t u → test t = test u := by
  intro test htest t u h
  obtain ⟨place, hplace, rfl⟩ := List.mem_map.mp htest
  exact H.place (hp hplace) h

theorem assign {name name' value value' : Token} (hn : R name name') (hv : R value value') :
    (assign name value).Alike (.ofRel env) (List.Forall₂ R) fails (assign name' value') := by
  rw [Calculator.assign, Calculator.assign, H.name hn]
  cases name'.name? with
  | none =>
    rw [H.written hn]
    intro e e' he _ _
    simp only [Action.result_bind, Action.result_ofExcept]
    cases hw : name'.written with
    | ok text => exact ⟨he, .error (H.blamed _ hn)⟩
    | error f =>
      rw [Token.written] at hw
      split at hw
      · cases hw
      · obtain rfl := Except.error.inj hw
        exact ⟨he, .error H.unwritable⟩
  | some key =>
    intro e e' he _ _
    have hresolved := H.resolve he hv
    exact ⟨H.insert key he hresolved, .ok (.cons hresolved .nil)⟩

theorem assignmentWindow {window window' : List Token} (h : List.Forall₂ R window window') :
    (assignmentWindow window).Alike (.ofRel env) (List.Forall₂ R) fails
      (assignmentWindow window') := by
  have hlength := h.length_eq
  match window, window' with
  | [_, _, name, _, value, _], [_, _, name', _, value', _] =>
    simp only [List.forall₂_cons] at h
    exact H.assign h.2.2.1 h.2.2.2.2.1
  | [], [] | [_], [_] | [_, _], [_, _] | [_, _, _], [_, _, _] | [_, _, _, _], [_, _, _, _]
  | [_, _, _, _, _], [_, _, _, _, _] => exact Action.alike_pure h
  | _ :: _ :: _ :: _ :: _ :: _ :: _ :: _, _ :: _ :: _ :: _ :: _ :: _ :: _ :: _ =>
    exact Action.alike_pure h

variable {group result : List Token → List Token → Prop}

theorem setWord : Pass.setWord.Alike env group result fails (List.Forall₂ R) (List.Forall₂ R) := by
  intro tokens tokens' h
  have htests := H.tests (List.subset_append_left keywordPattern assignmentPattern)
  exact alike_scanOnto htests (fun _ _ _ => Action.alike_pure (.cons H.keyword .nil)) .nil h

theorem setVariable :
    Pass.setVariable.Alike env group result fails (List.Forall₂ R) (List.Forall₂ R) := by
  intro tokens tokens' h
  have htests := H.tests (List.subset_append_right keywordPattern assignmentPattern)
  exact alike_scanOnto htests (fun _ _ hw => H.assignmentWindow hw) .nil h

theorem useVariable :
    Pass.useVariable.Alike env group result fails (List.Forall₂ R) (List.Forall₂ R) := by
  intro tokens tokens' h e e' he _ _
  have hresolved : List.Forall₂ R (tokens.map e.resolve) (tokens'.map e'.resolve) :=
    List.rel_map (fun _ _ ht => H.resolve he ht) h
  exact ⟨he, .ok hresolved⟩

theorem brackets : Pass.brackets.Alike env (List.Forall₂ R) (List.Forall₂ R) fails
    (List.Forall₂ R) (List.Forall₂ R) := fun _ _ h =>
  alike_groupPlan (fun _ _ ht => H.isChar ht (by simp)) (fun _ _ ht => H.isChar ht (by simp))
    (fun _ _ ht => H.blamed _ ht) .nil h

end Resemblance

end Calculator
