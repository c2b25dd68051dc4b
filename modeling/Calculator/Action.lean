import Calculator.Failure

/-! Actions work on a state and may fail.  What an action did to the state before it failed stays
done. -/

namespace Calculator

abbrev Action (σ α : Type) : Type := ExceptT Failure (StateM σ) α

namespace Action

variable {σ τ α β : Type}

/-- The result of an action and the state after it. -/
def result (x : Action σ α) (s : σ) : Except Failure α × σ := ExceptT.run x s

/-- An action that leaves the state as it is. -/
def ofExcept (x : Except Failure α) : Action σ α := ExceptT.mk (pure x)

def onPart (view : σ → τ) (update : σ → τ → σ) (x : Action τ α) : Action σ α :=
  ExceptT.mk fun s =>
    let (r, t) := x.result (view s)
    (r, update s t)

@[simp] theorem result_pure (a : α) (s : σ) : result (pure a : Action σ α) s = (.ok a, s) := rfl

@[simp] theorem result_throw (e : Failure) (s : σ) :
    result (throw e : Action σ α) s = (.error e, s) := rfl

@[simp] theorem result_ofExcept (x : Except Failure α) (s : σ) :
    result (ofExcept x : Action σ α) s = (x, s) := rfl

@[simp] theorem result_bind (x : Action σ α) (f : α → Action σ β) (s : σ) :
    result (x >>= f) s =
      match result x s with
      | (.ok a, s') => result (f a) s'
      | (.error e, s') => (.error e, s') := by
  change (ExceptT.bindCont f (x s).1) (x s).2 = match x s with
    | (.ok a, s') => result (f a) s'
    | (.error e, s') => (.error e, s')
  rcases x s with ⟨_ | a, s'⟩ <;> rfl

@[simp] theorem result_map (f : α → β) (x : Action σ α) (s : σ) :
    result (f <$> x) s =
      match result x s with
      | (.ok a, s') => (.ok (f a), s')
      | (.error e, s') => (.error e, s') := by
  rw [← bind_pure_comp, result_bind]
  rfl

@[simp] theorem result_get (s : σ) : result (get : Action σ σ) s = (.ok s, s) := rfl

@[simp] theorem result_set (s s' : σ) : result (set s' : Action σ PUnit) s = (.ok ⟨⟩, s') := rfl

@[simp] theorem result_modify (f : σ → σ) (s : σ) :
    result (modify f : Action σ PUnit) s = (.ok ⟨⟩, f s) := rfl

/-- An action that takes over from another one where that fails. -/
@[simp] theorem result_tryCatch (x : Action σ α) (handle : Failure → Action σ α) (s : σ) :
    result (tryCatch x handle) s =
      match result x s with
      | (.ok a, s') => (.ok a, s')
      | (.error e, s') => result (handle e) s' := by
  change ExceptT.tryCatch x handle s = _
  simp only [ExceptT.tryCatch, ExceptT.mk, bind, StateT.bind, result, ExceptT.run]
  rcases x s with ⟨_ | a, s'⟩ <;> rfl

@[simp] theorem result_onPart (view : σ → τ) (update : σ → τ → σ) (x : Action τ α) (s : σ) :
    result (onPart view update x) s = ((x.result (view s)).1, update s (x.result (view s)).2) := rfl

/-- Actions with the same results are the same. -/
theorem ext {x y : Action σ α} (h : ∀ s, x.result s = y.result s) : x = y := funext h

end Action

end Calculator
