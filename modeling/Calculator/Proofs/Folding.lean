import Calculator.Arithmetic.Folds

/-! Folds as recursions.  A fold scans with a window of three tokens over what it has put out so
far; `fold` says the same without an output: it goes along the tokens with the one that a sign would
take as its left operand.  The two are equal because a token that is no sign keeps every later
window off the tokens before it. -/

namespace Calculator

/-- Steps that may fail, one after the other, succeed when each does. -/
theorem Except.bind_eq_ok_iff {ε α β : Type} {x : Except ε α} {f : α → Except ε β} {b : β} :
    x >>= f = .ok b ↔ ∃ a, x = .ok a ∧ f a = .ok b := by
  cases x <;> simp [bind, Except.bind]

/-- The first of them to fail decides how they fail. -/
theorem Except.bind_eq_error_iff {ε α β : Type} {x : Except ε α} {f : α → Except ε β} {e : ε} :
    x >>= f = .error e ↔ x = .error e ∨ ∃ a, x = .ok a ∧ f a = .error e := by
  cases x <;> simp [bind, Except.bind]

theorem Except.bind_congr_of_ok {ε α β : Type} {x : Except ε α} {f g : α → Except ε β}
    (h : ∀ a, x = .ok a → f a = g a) : x >>= f = x >>= g := by
  cases x with
  | error e => rfl
  | ok a => exact h a rfl

@[simp] theorem Except.ok_bind {ε α β : Type} (a : α) (f : α → Except ε β) :
    (Except.ok a >>= f) = f a := rfl

section Fold

variable (isSign : Token → Bool) (operation : Number → Token → Number → Except Failure Number)

/-- The result of an operation on two tokens, which must be numbers. -/
def combine (left sign right : Token) : Except Failure Number := do
  let a ← operand left
  let b ← operand right
  operation a sign b

/-- The fold of the tokens behind `left`. -/
def foldFrom (left : Token) : List Token → Except Failure (List Token)
  | [] => .ok [left]
  | [t] => .ok [left, t]
  | t :: right :: rest =>
      if isSign t then do
        let n ← combine operation left t right
        foldFrom (.number n) rest
      else do
        let folded ← foldFrom t (right :: rest)
        .ok (left :: folded)

def fold : List Token → Except Failure (List Token)
  | [] => .ok []
  | t :: tokens => foldFrom isSign operation t tokens

@[simp] theorem fold_cons (t : Token) (tokens : List Token) :
    fold isSign operation (t :: tokens) = foldFrom isSign operation t tokens := rfl

@[simp] theorem foldFrom_nil (left : Token) : foldFrom isSign operation left [] = .ok [left] := rfl

variable {isSign}

/-- A token that is no sign leaves the token before it as it is. -/
theorem foldFrom_cons_of_not_sign {left t : Token} (ht : isSign t = false) (tokens : List Token) :
    foldFrom isSign operation left (t :: tokens) =
      (do let folded ← foldFrom isSign operation t tokens; .ok (left :: folded)) := by
  cases tokens with
  | nil => rfl
  | cons right rest => simp [foldFrom, ht]

theorem foldFrom_cons_of_sign {left t : Token} (ht : isSign t = true) (right : Token)
    (rest : List Token) :
    foldFrom isSign operation left (t :: right :: rest) =
      (do let n ← combine operation left t right; foldFrom isSign operation (.number n) rest) := by
  simp [foldFrom, ht]

variable {operation}

/-! ### The scan -/

def foldTests (isSign : Token → Bool) : List (Token → Bool) :=
  [Window.anything, isSign, Window.anything]

/-- Two tokens on the output and a third that arrives make a window when the second is a sign. -/
theorem scanOnto_pair (base : List Token) (left t right : Token) (rest : List Token) :
    Window.scanOnto (foldTests isSign) (foldWindow operation) (t :: left :: base) (right :: rest) =
      if isSign t then do
        let n ← combine operation left t right
        Window.scanOnto (foldTests isSign) (foldWindow operation) (.number n :: base) rest
      else
        Window.scanOnto (foldTests isSign) (foldWindow operation) (right :: t :: left :: base)
          rest := by
  rw [Window.scanOnto]
  by_cases ht : isSign t = true
  · simp [foldTests, Window.fits, Window.anything, ht, foldWindow, combine, pure, Except.pure]
  · simp [foldTests, Window.fits, Window.anything, ht]

theorem scanOnto_push {base : List Token} {left : Token} (hb : base = [] ∨ isSign left = false)
    (t : Token) (tokens : List Token) :
    Window.scanOnto (foldTests isSign) (foldWindow operation) (left :: base) (t :: tokens) =
      Window.scanOnto (foldTests isSign) (foldWindow operation) (t :: left :: base) tokens := by
  cases base with
  | nil => simp [Window.scanOnto, foldTests, Window.fits]
  | cons below base =>
    rw [scanOnto_pair, if_neg]
    simpa using hb

/-- The scan goes on from `left` as the fold does, and what is below `left` stays there. -/
theorem scanOnto_eq_foldFrom (hn : ∀ n, isSign (.number n) = false) {base : List Token}
    {left : Token} (tokens : List Token) (hb : base = [] ∨ isSign left = false) :
    Window.scanOnto (foldTests isSign) (foldWindow operation) (left :: base) tokens =
      (do let folded ← foldFrom isSign operation left tokens; .ok (base.reverse ++ folded)) := by
  induction left, tokens using foldFrom.induct isSign generalizing base with
  | case1 left => simp [Window.scanOnto, pure, Except.pure]
  | case2 left t =>
    rw [scanOnto_push hb]
    simp [Window.scanOnto, foldFrom, pure, Except.pure]
  | case3 left t right rest ht ih =>
    rw [scanOnto_push hb, scanOnto_pair, if_pos ht, foldFrom_cons_of_sign operation ht]
    simp only [bind_assoc]
    congr 1
    funext n
    exact ih n (.inr (hn n))
  | case4 left t right rest ht ih =>
    have ht : isSign t = false := by simpa using ht
    rw [scanOnto_push hb, ih (.inr ht), foldFrom_cons_of_not_sign operation ht]
    simp [bind_assoc]

theorem scan_eq_fold (hn : ∀ n, isSign (.number n) = false) (tokens : List Token) :
    Window.scan (foldTests isSign) (foldWindow operation) tokens =
      fold isSign operation tokens := by
  cases tokens with
  | nil => rfl
  | cons t tokens =>
    have h : Window.scan (foldTests isSign) (foldWindow operation) (t :: tokens) =
        Window.scanOnto (foldTests isSign) (foldWindow operation) [t] tokens := by
      simp [Window.scan, Window.scanOnto, foldTests, Window.fits]
    rw [h, scanOnto_eq_foldFrom hn tokens (.inl rfl), fold_cons]
    cases foldFrom isSign operation t tokens <;> rfl

end Fold

/-- Whether a token is a sign of products and quotients. -/
def isScaling : Token → Bool := Window.isCharOf ['*', '/']

/-- Whether a token is a sign of sums and differences. -/
def isAddition : Token → Bool := Window.isCharOf ['+', '-']

theorem foldProducts_eq_fold (tokens : List Token) :
    foldProducts tokens = fold isScaling multiply tokens :=
  scan_eq_fold (fun _ => rfl) tokens

theorem foldSums_eq_fold (tokens : List Token) : foldSums tokens = fold isAddition addUp tokens :=
  scan_eq_fold (fun _ => rfl) tokens

end Calculator
