import Calculator.Action

/-! Outcomes.  What a step may give, how it may fail and what it keeps true of its state are said
together, so that a run is described by what is known of its steps, whether it succeeds or not. -/

namespace Calculator

variable {σ τ α β : Type} {post : α → Prop} {post' : β → Prop} {fails : Failure → Prop}

/-- A result is as `post` says, and a failure as `fails` says. -/
def Meets (post : α → Prop) (fails : Failure → Prop) : Except Failure α → Prop
  | .ok a => post a
  | .error e => fails e

namespace Meets

theorem bind {x : Except Failure α} {f : α → Except Failure β} (h : Meets post fails x)
    (hf : ∀ a, post a → Meets post' fails (f a)) : Meets post' fails (x >>= f) := by
  cases x with
  | error e => exact h
  | ok a => exact hf a h

theorem ok {x : Except Failure α} (h : Meets post fails x) {a : α} (hx : x = .ok a) : post a := by
  rw [hx] at h
  exact h

/-- More may be said of results that is known where there are some. -/
theorem of_ok {x : Except Failure α} {post' : α → Prop} (h : Meets post fails x)
    (hpost : ∀ a, x = .ok a → post' a) : Meets post' fails x := by
  cases x with
  | error e => exact h
  | ok a => exact hpost a rfl

theorem weaken {x : Except Failure α} {fails' : Failure → Prop} (h : Meets post fails x)
    (hfails : ∀ f, fails f → fails' f) : Meets post fails' x := by
  cases x with
  | error e => exact hfails e h
  | ok a => exact h

theorem mapM {f : τ → Except Failure α} {items : List τ}
    (h : ∀ a ∈ items, Meets post fails (f a)) :
    Meets (fun results => ∀ b ∈ results, post b) fails (items.mapM f) := by
  induction items with
  | nil => exact fun b hb => absurd hb List.not_mem_nil
  | cons a items ih =>
    obtain ⟨ha, hrest⟩ := List.forall_mem_cons.mp h
    rw [List.mapM_cons]
    exact ha.bind fun b hb => (ih hrest).bind fun bs hbs => List.forall_mem_cons.mpr ⟨hb, hbs⟩

end Meets

namespace Action

/-- From states as `inv` says an action goes to such states, also when it fails; what it gives is as
`post` says, and its failures are as `fails` says. -/
def Keeps (x : Action σ α) (inv : σ → Prop) (post : α → Prop) (fails : Failure → Prop) : Prop :=
  ∀ s, inv s → inv (x.result s).2 ∧ Meets post fails (x.result s).1

variable {inv : σ → Prop}

theorem keeps_ofExcept {x : Except Failure α} (h : Meets post fails x) :
    (ofExcept x : Action σ α).Keeps inv post fails := fun _ hs => ⟨hs, h⟩

theorem keeps_pure {a : α} (h : post a) : (pure a : Action σ α).Keeps inv post fails :=
  fun _ hs => ⟨hs, h⟩

theorem keeps_throw {e : Failure} (h : fails e) : (throw e : Action σ α).Keeps inv post fails :=
  fun _ hs => ⟨hs, h⟩

theorem Keeps.mono {x : Action σ α} {post' : α → Prop} (h : x.Keeps inv post fails)
    (hpost : ∀ a, post a → post' a) : x.Keeps inv post' fails :=
  fun s hs => ⟨(h s hs).1, (h s hs).2.of_ok fun a ha => hpost a ((h s hs).2.ok ha)⟩

theorem Keeps.bind {x : Action σ α} {f : α → Action σ β} (h : x.Keeps inv post fails)
    (hf : ∀ a, post a → (f a).Keeps inv post' fails) : (x >>= f).Keeps inv post' fails := by
  intro s hs
  obtain ⟨hinv, hmeets⟩ := h s hs
  rw [result_bind]
  cases hx : x.result s with
  | mk r s' =>
    rw [hx] at hinv hmeets
    cases r with
    | error e => exact ⟨hinv, hmeets⟩
    | ok a => exact hf a hmeets s' hinv

/-- Two actions are the same when they go on alike from whatever their first step may give. -/
theorem Keeps.bind_congr {x : Action σ α} {f g : α → Action σ β} (h : x.Keeps inv post fails)
    (hinv : ∀ s, inv s) (hf : ∀ a, post a → f a = g a) : x >>= f = x >>= g := by
  apply Action.ext
  intro s
  obtain ⟨-, hmeets⟩ := h s (hinv s)
  rw [result_bind, result_bind]
  cases hx : x.result s with
  | mk r s' =>
    rw [hx] at hmeets
    cases r with
    | error e => rfl
    | ok a =>
      show (f a).result s' = (g a).result s'
      rw [hf a hmeets]

end Action

end Calculator
