import Calculator.Arithmetic.Signs

/-! Signs by place.  A minus is a sign by the tokens of the input around it, whatever becomes of
them, so that all signs can be found first and applied at once: the scan that goes from token to
token gives the same. -/

namespace Calculator

/-- A token with its number changed, if it is one. -/
def Token.withNumber (f : Number → Number) : Token → Token
  | .number n => .number (f n)
  | t => t

/-- Whether a sign stands at place `i`: a minus before a number, with no number before the minus. -/
def isSign (tokens : List Token) (i : Nat) : Bool :=
  tokens[i]?.any (Token.isChar '-') && tokens[i + 1]?.any Token.isNumber &&
    (i == 0 || !tokens[i - 1]?.any Token.isNumber)

/-- What stands for the token at place `i` once the signs are applied: the negated number for a
sign, nothing for the number behind a sign, and otherwise the token itself. -/
def signedAt (tokens : List Token) (i : Nat) : List Token :=
  if isSign tokens i then (tokens[i + 1]?.map (Token.withNumber Number.neg)).toList
  else if i != 0 && isSign tokens (i - 1) then []
  else tokens[i]?.toList

/-- The tokens with all signs applied at once. -/
def withSigns (tokens : List Token) : List Token :=
  (List.range tokens.length).flatMap (signedAt tokens)

/-! ### Places behind other tokens -/

theorem getElem?_behind (before : List Token) (t : Token) (tokens : List Token) :
    (before ++ t :: tokens)[before.length + 1]? = tokens.head? := by
  rw [List.getElem?_append_right (by omega), Nat.add_sub_cancel_left, List.getElem?_cons_succ,
    List.head?_eq_getElem?]

theorem isSign_behind (before : List Token) (t : Token) (tokens : List Token) :
    isSign (before ++ t :: tokens) before.length =
      (t.isChar '-' && tokens.head?.any Token.isNumber &&
        !before.getLast?.any Token.isNumber) := by
  have hprevious : (before.length == 0 ||
      !(before ++ t :: tokens)[before.length - 1]?.any Token.isNumber) =
      !before.getLast?.any Token.isNumber := by
    rcases List.eq_nil_or_concat before with rfl | ⟨before, u, rfl⟩
    · rfl
    · simp
  rw [isSign, hprevious, getElem?_behind]
  simp

/-- No sign stands on the place before some tokens, so that the first of them stays or is a sign. -/
def StartsUnsigned (before tokens : List Token) : Prop :=
  before ≠ [] → isSign (before ++ tokens) (before.length - 1) = false

/-- What stands for some tokens behind others once the signs are applied. -/
def signedBehind (before tokens : List Token) : List Token :=
  (List.range' before.length tokens.length).flatMap (signedAt (before ++ tokens))

theorem startsUnsigned_concat {before : List Token} {t : Token} {tokens : List Token} :
    StartsUnsigned (before ++ [t]) tokens ↔
      isSign (before ++ t :: tokens) before.length = false := by
  simp [StartsUnsigned]

/-- A number is never a sign. -/
theorem startsUnsigned_number (before : List Token) (n : Number) (tokens : List Token) :
    StartsUnsigned (before ++ [.number n]) tokens := by
  rw [startsUnsigned_concat, isSign_behind]
  rfl

theorem signedBehind_cons (before : List Token) (t : Token) (tokens : List Token) :
    signedBehind before (t :: tokens) =
      signedAt (before ++ t :: tokens) before.length ++ signedBehind (before ++ [t]) tokens := by
  simp [signedBehind, List.range'_succ]

theorem StartsUnsigned.signedAt {before : List Token} {t : Token} {tokens : List Token}
    (h : StartsUnsigned before (t :: tokens)) :
    signedAt (before ++ t :: tokens) before.length =
      if isSign (before ++ t :: tokens) before.length then
        (tokens.head?.map (Token.withNumber Number.neg)).toList
      else [t] := by
  have hstays : (before.length != 0 && isSign (before ++ t :: tokens) (before.length - 1)) =
      false := by
    rcases List.eq_nil_or_concat before with rfl | ⟨before, u, rfl⟩
    · rfl
    · rw [h (by simp), Bool.and_false]
  rw [Calculator.signedAt, hstays, getElem?_behind]
  simp

/-- A token that is no sign stays. -/
theorem signedBehind_of_not_isSign {before : List Token} {t : Token} {tokens : List Token}
    (h : StartsUnsigned before (t :: tokens))
    (hsign : isSign (before ++ t :: tokens) before.length = false) :
    signedBehind before (t :: tokens) = t :: signedBehind (before ++ [t]) tokens := by
  rw [signedBehind_cons, h.signedAt, hsign]
  rfl

/-- A sign and its number make one number. -/
theorem signedBehind_of_isSign {before : List Token} {t : Token} {n : Number} {tokens : List Token}
    (h : StartsUnsigned before (t :: .number n :: tokens))
    (hsign : isSign (before ++ t :: .number n :: tokens) before.length = true) :
    signedBehind before (t :: .number n :: tokens) =
      .number n.neg :: signedBehind (before ++ [t] ++ [.number n]) tokens := by
  have hnumber : signedAt (before ++ [t] ++ .number n :: tokens) (before ++ [t]).length = [] := by
    have hself := startsUnsigned_number (before ++ [t]) n tokens
    rw [startsUnsigned_concat] at hself
    rw [signedAt, hself]
    simp [hsign]
  rw [signedBehind_cons, h.signedAt, hsign, signedBehind_cons, hnumber]
  rfl

/-- The scan gives what stands for the tokens in the input; whether a number stands before them is
all it has to know of what it has left behind. -/
theorem signsFrom_eq_signedBehind {afterNumber : Bool} {before tokens : List Token}
    (hafter : afterNumber = before.getLast?.any Token.isNumber)
    (h : StartsUnsigned before tokens) :
    signsFrom afterNumber tokens = signedBehind before tokens := by
  have hlast : ∀ (before : List Token) (t : Token),
      t.isNumber = (before ++ [t]).getLast?.any Token.isNumber := by simp
  fun_induction signsFrom afterNumber tokens generalizing before with
  | case1 => rfl
  | case2 afterNumber t n rest hminus ih =>
    have hsign : isSign (before ++ t :: .number n :: rest) before.length = true := by
      rw [isSign_behind, ← hafter]
      simpa using hminus
    rw [signedBehind_of_isSign h hsign, ih (hlast _ (.number n)) (startsUnsigned_number _ n rest)]
  | case3 afterNumber t n rest hminus ih =>
    have hsign : isSign (before ++ t :: .number n :: rest) before.length = false := by
      rw [isSign_behind, ← hafter]
      simpa using hminus
    rw [signedBehind_of_not_isSign h hsign, ih (hlast _ t) (startsUnsigned_concat.mpr hsign)]
  | case4 afterNumber t tokens hnumber ih =>
    have hsign : isSign (before ++ t :: tokens) before.length = false := by
      have hhead : tokens.head?.any Token.isNumber = false := by
        cases tokens with
        | nil => rfl
        | cons u rest =>
          cases u with
          | number n => exact (hnumber n rest rfl).elim
          | _ => rfl
      rw [isSign_behind, hhead, Bool.and_false]
      rfl
    rw [signedBehind_of_not_isSign h hsign, ih (hlast _ t) (startsUnsigned_concat.mpr hsign)]

theorem applySigns_eq_withSigns (tokens : List Token) : applySigns tokens = withSigns tokens := by
  have hscan : signsFrom false tokens = signedBehind [] tokens :=
    signsFrom_eq_signedBehind rfl fun h => absurd rfl h
  rw [applySigns, hscan, withSigns, List.range_eq_range']
  rfl

/-- A sign and its number share no token with another sign and its number. -/
theorem isSign_and_isSign_succ (tokens : List Token) (i : Nat) :
    (isSign tokens i && isSign tokens (i + 1)) = false := by
  have hnumber : ∀ t : Token, ¬(t.isNumber = true ∧ t.isChar '-' = true) := by
    intro t
    cases t <;> simp [Token.isNumber]
  rw [← Bool.not_eq_true]
  simp only [isSign, Bool.and_eq_true]
  intro h
  cases hbehind : tokens[i + 1]? with
  | none => simp [hbehind] at h
  | some t =>
    rw [hbehind] at h
    exact hnumber t ⟨h.1.1.2, h.2.1.1⟩

/-- Which tokens are signs does not hang on what the numbers are. -/
theorem isSign_withNumber (f : Number → Number) (tokens : List Token) (i : Nat) :
    isSign (tokens.map (Token.withNumber f)) i = isSign tokens i := by
  have hminus : ∀ t : Token, (t.withNumber f).isChar '-' = t.isChar '-' := by
    intro t
    cases t <;> rfl
  have hnumber : ∀ t : Token, (t.withNumber f).isNumber = t.isNumber := by
    intro t
    cases t <;> rfl
  simp only [isSign, List.getElem?_map, Option.any_map, hminus, hnumber]

theorem unaryMinus_at_once (tokens : List Token) (env : Environment) :
    (Pass.unaryMinus.call tokens).result env = (.ok (withSigns tokens), env) ∧
      (∀ i, (isSign tokens i && isSign tokens (i + 1)) = false) ∧
      ∀ f i, isSign (tokens.map (Token.withNumber f)) i = isSign tokens i := by
  refine ⟨?_, isSign_and_isSign_succ tokens, fun f i => isSign_withNumber f tokens i⟩
  rw [← applySigns_eq_withSigns]
  rfl

/-- Of two minuses before a number the second is a sign, and it does not make the first one. -/
example : withSigns [.char '-' none, .char '-' none, .number (.int 3), .char '-' none,
    .number (.int 4)] =
      [.char '-' none, .number (.int (-3)), .char '-' none, .number (.int 4)] := rfl

end Calculator
