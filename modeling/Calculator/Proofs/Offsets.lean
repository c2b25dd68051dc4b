import Calculator.Proofs.Evaluation

/-! Offsets play no part in evaluation.  Taking the offsets off the tokens before a pass runs, or
off what it gives, comes to the same: the tokens that are left, the failures and the bindings of
the environment differ in their offsets only. -/

namespace Calculator

def withoutOffsets (tokens : List Token) : List Token := tokens.map Token.withoutOffset

@[simp] theorem withoutOffsets_nil : withoutOffsets [] = [] := rfl

@[simp] theorem withoutOffsets_cons (t : Token) (tokens : List Token) :
    withoutOffsets (t :: tokens) = t.withoutOffset :: withoutOffsets tokens := rfl

theorem withoutOffsets_append (first second : List Token) :
    withoutOffsets (first ++ second) = withoutOffsets first ++ withoutOffsets second :=
  List.map_append

theorem withoutOffsets_reverse (tokens : List Token) :
    withoutOffsets tokens.reverse = (withoutOffsets tokens).reverse := List.map_reverse

/-- The failure with the offset taken off the token that it points at. -/
def Failure.withoutOffset : Failure → Failure
  | .evaluation e => .evaluation { e with token := e.token.map Token.withoutOffset }
  | f => f

@[simp] theorem Failure.withoutOffset_at (cause : Cause) (t : Token) :
    (Failure.at cause t).withoutOffset = .at cause t.withoutOffset := rfl

/-- An outcome with the offsets taken off by `f` where it is no failure. -/
def Except.withoutOffsets {α : Type} (f : α → α) : Except Failure α → Except Failure α
  | .ok a => .ok (f a)
  | .error e => .error e.withoutOffset

theorem eq_ok_iff_withoutOffsets {x : Except Failure Number} {n : Number} :
    x = .ok n ↔ Except.withoutOffsets id x = .ok n := by
  cases x with
  | error f => exact ⟨nofun, nofun⟩
  | ok m => exact Iff.rfl

theorem eq_ok_of_withoutOffsets {x : Except Failure Number} {n : Number}
    (h : Except.withoutOffsets id x = .ok n) : x = .ok n :=
  eq_ok_iff_withoutOffsets.mpr h

abbrev tokensOnly : Except Failure (List Token) → Except Failure (List Token) :=
  Except.withoutOffsets Calculator.withoutOffsets

theorem tokensOnly_bind {x : Except Failure (List Token)}
    {f g : List Token → Except Failure (List Token)}
    (h : ∀ tokens, g (withoutOffsets tokens) = tokensOnly (f tokens)) :
    tokensOnly (x >>= f) = tokensOnly x >>= g := by
  cases x with
  | error e => rfl
  | ok tokens => exact (h tokens).symm

/-! ### Tokens -/

namespace Token

variable (t : Token)

@[simp] theorem isChar_withoutOffset (c : Char) : t.withoutOffset.isChar c = t.isChar c := by
  cases t <;> rfl

@[simp] theorem isNumber_withoutOffset : t.withoutOffset.isNumber = t.isNumber := by
  cases t <;> rfl

@[simp] theorem digits?_withoutOffset : t.withoutOffset.digits? = t.digits? := by
  cases t <;> rfl

@[simp] theorem name?_withoutOffset : t.withoutOffset.name? = t.name? := by
  cases t <;> rfl

@[simp] theorem text_withoutOffset : t.withoutOffset.text = t.text := by
  cases t <;> rfl

@[simp] theorem isWritable_withoutOffset : t.withoutOffset.isWritable = t.isWritable := by
  cases t <;> rfl

end Token

/-- The characters of a source that are not blank. -/
def solidChars (source : String) : List Char := source.toList.filter fun c => !Text.isBlank c

/-- Offsets apart, the tokens of a source are its characters that are not blank. -/
theorem withoutOffsets_tokenize (source : String) :
    withoutOffsets (tokenize source) = (solidChars source).map Token.sign := by
  have h : ∀ offset s, withoutOffsets (tokensFrom offset s) =
      (s.filter fun c => !Text.isBlank c).map Token.sign := by
    intro offset s
    induction s generalizing offset with
    | nil => rfl
    | cons c rest ih =>
      by_cases hc : Text.isBlank c = true
      · rw [tokensFrom, if_pos hc, ih, List.filter_cons_of_neg (by simp [hc])]
      · rw [tokensFrom, if_neg hc, List.filter_cons_of_pos (by simp [hc]), withoutOffsets_cons, ih]
        rfl
  exact h 0 source.toList

theorem length_tokenize (source : String) :
    (tokenize source).length = (solidChars source).length := by
  have h := congrArg List.length (withoutOffsets_tokenize source)
  rwa [withoutOffsets, List.length_map, List.length_map] at h

/-! ### Plain arithmetic -/

theorem joinDigits_withoutOffset (output : List Token) (t : Token) :
    joinDigits (withoutOffsets output) t.withoutOffset = withoutOffsets (joinDigits output t) := by
  cases output with
  | nil => rfl
  | cons last output =>
    simp only [withoutOffsets_cons, joinDigits, Token.digits?_withoutOffset]
    split <;> rfl

theorem mergeDigits_withoutOffsets (tokens : List Token) :
    mergeDigits (withoutOffsets tokens) = withoutOffsets (mergeDigits tokens) := by
  have h : ∀ output, (withoutOffsets tokens).foldl joinDigits (withoutOffsets output) =
      withoutOffsets (tokens.foldl joinDigits output) := by
    induction tokens with
    | nil => exact fun _ => rfl
    | cons t tokens ih =>
      intro output
      rw [withoutOffsets_cons, List.foldl_cons, joinDigits_withoutOffset, ih, List.foldl_cons]
  rw [mergeDigits, mergeDigits, withoutOffsets_reverse, ← h []]
  rfl

theorem convertNumerals_cons (t : Token) (tokens : List Token) :
    convertNumerals (t :: tokens) = (do
      let u ← readDigits t
      let read ← convertNumerals tokens
      .ok (u :: read)) :=
  List.mapM_cons

theorem readDigits_withoutOffset (t : Token) :
    readDigits t.withoutOffset = Except.withoutOffsets Token.withoutOffset (readDigits t) := by
  simp only [readDigits, Token.digits?_withoutOffset]
  cases t.digits? with
  | none => rfl
  | some digits =>
    simp only
    cases Decimal.readInteger 10 digits <;> rfl

theorem convertNumerals_withoutOffsets (tokens : List Token) :
    convertNumerals (withoutOffsets tokens) = tokensOnly (convertNumerals tokens) := by
  induction tokens with
  | nil => rfl
  | cons t tokens ih =>
    rw [withoutOffsets_cons, convertNumerals_cons, convertNumerals_cons, readDigits_withoutOffset,
      ih]
    cases readDigits t with
    | error e => rfl
    | ok u => cases convertNumerals tokens <;> rfl

theorem openGroup?_withoutOffsets (output : List Token) :
    openGroup? (withoutOffsets output) =
      (openGroup? output).map (Prod.map withoutOffsets withoutOffsets) := by
  induction output with
  | nil => rfl
  | cons t output ih =>
    simp only [withoutOffsets_cons, openGroup?, Token.isChar_withoutOffset, ih]
    split
    · rfl
    · cases openGroup? output <;> rfl

theorem groups_withoutOffsets {group group' : List Token → Except Failure (List Token)}
    (h : ∀ tokens, group' (withoutOffsets tokens) = tokensOnly (group tokens))
    (output tokens : List Token) :
    (groupPlan (withoutOffsets output) (withoutOffsets tokens)).carryOut group' =
      tokensOnly ((groupPlan output tokens).carryOut group) := by
  induction tokens generalizing output with
  | nil =>
    simp only [withoutOffsets_nil, groupPlan, Plan.carryOut_done, ← withoutOffsets_reverse]
    rfl
  | cons t tokens ih =>
    simp only [withoutOffsets_cons, groupPlan, Token.isChar_withoutOffset,
      openGroup?_withoutOffsets]
    split
    · cases openGroup? output with
      | none => rfl
      | some content =>
        obtain ⟨content, below⟩ := content
        simp only [Option.map_some, Prod.map, Plan.carryOut_run, ← withoutOffsets_reverse]
        rw [h, tokensOnly_bind]
        intro result
        rw [← withoutOffsets_reverse, ← withoutOffsets_append]
        exact ih _
    · exact ih (t :: output)

theorem signsFrom_withoutOffsets (afterNumber : Bool) (tokens : List Token) :
    signsFrom afterNumber (withoutOffsets tokens) =
      withoutOffsets (signsFrom afterNumber tokens) := by
  fun_induction signsFrom afterNumber tokens with
  | case1 => simp [signsFrom]
  | case2 afterNumber t n rest ht ih =>
    change signsFrom afterNumber (t.withoutOffset :: .number n :: withoutOffsets rest) = _
    rw [signsFrom, Token.isChar_withoutOffset, if_pos ht, ih]
    rfl
  | case3 afterNumber t n rest ht ih =>
    change signsFrom afterNumber (t.withoutOffset :: .number n :: withoutOffsets rest) = _
    rw [signsFrom, Token.isChar_withoutOffset, if_neg ht, Token.isNumber_withoutOffset]
    exact congrArg _ ih
  | case4 afterNumber t tokens ht ih =>
    rw [withoutOffsets_cons, signsFrom]
    · rw [Token.isNumber_withoutOffset, ih]
      rfl
    · intro n rest hw
      cases tokens with
      | nil => cases hw
      | cons u tokens =>
        cases u with
        | number m => exact ht m tokens rfl
        | _ => cases hw

theorem operand_withoutOffset (t : Token) :
    operand t.withoutOffset = Except.withoutOffsets id (operand t) := by
  cases t with
  | char c p =>
    have hparen : Token.isChar '(' (.char c p) = Token.isChar '(' (.char c none) := rfl
    have hname : (Token.char c p).name? = (Token.char c none).name? := rfl
    simp only [operand, Token.withoutOffset, hparen, hname]
    split
    · rfl
    · split <;> rfl
  | _ => rfl

/-- An operation on numbers that points at its sign when it fails. -/
def PointsAtSign (operation : Number → Token → Number → Except Failure Number) : Prop :=
  ∀ a sign b, operation a sign.withoutOffset b = Except.withoutOffsets id (operation a sign b)

theorem withoutOffsets_ofOverflow (x : Except Number.Overflow Number) :
    Except.withoutOffsets id (Failure.ofOverflow x) = Failure.ofOverflow x := by
  cases x <;> rfl

theorem pointsAtSign_multiply : PointsAtSign multiply := by
  intro a sign b
  simp only [multiply, divide, Token.isChar_withoutOffset]
  split
  · exact (withoutOffsets_ofOverflow _).symm
  · split
    · rfl
    · exact (withoutOffsets_ofOverflow _).symm

theorem pointsAtSign_addUp : PointsAtSign addUp := by
  intro a sign b
  simp only [addUp, Token.isChar_withoutOffset]
  exact (withoutOffsets_ofOverflow _).symm

section Fold

variable {isSign : Token → Bool} {operation : Number → Token → Number → Except Failure Number}

theorem combine_withoutOffset (ho : PointsAtSign operation) (left sign right : Token) :
    combine operation left.withoutOffset sign.withoutOffset right.withoutOffset =
      Except.withoutOffsets id (combine operation left sign right) := by
  rw [combine, combine, operand_withoutOffset, operand_withoutOffset]
  cases operand left with
  | error e => rfl
  | ok a =>
    cases operand right with
    | error e => rfl
    | ok b => exact ho a sign b

theorem foldFrom_withoutOffsets (hs : ∀ t, isSign t.withoutOffset = isSign t)
    (ho : PointsAtSign operation) (left : Token) (tokens : List Token) :
    foldFrom isSign operation left.withoutOffset (withoutOffsets tokens) =
      tokensOnly (foldFrom isSign operation left tokens) := by
  induction left, tokens using foldFrom.induct isSign with
  | case1 left => rfl
  | case2 left t => rfl
  | case3 left t right rest ht ih =>
    rw [foldFrom_cons_of_sign operation ht, withoutOffsets_cons, withoutOffsets_cons,
      foldFrom_cons_of_sign operation ((hs t).trans ht), combine_withoutOffset ho]
    cases combine operation left t right with
    | error e => rfl
    | ok n => exact ih n
  | case4 left t right rest ht ih =>
    have ht : isSign t = false := by simpa using ht
    rw [foldFrom_cons_of_not_sign operation ht, withoutOffsets_cons,
      foldFrom_cons_of_not_sign operation ((hs t).trans ht), ih]
    cases foldFrom isSign operation t (right :: rest) <;> rfl

theorem fold_withoutOffsets (hs : ∀ t, isSign t.withoutOffset = isSign t)
    (ho : PointsAtSign operation) (tokens : List Token) :
    fold isSign operation (withoutOffsets tokens) = tokensOnly (fold isSign operation tokens) := by
  cases tokens with
  | nil => rfl
  | cons t tokens => exact foldFrom_withoutOffsets hs ho t tokens

end Fold

theorem isScaling_withoutOffset (t : Token) : isScaling t.withoutOffset = isScaling t := by
  cases t <;> rfl

theorem isAddition_withoutOffset (t : Token) : isAddition t.withoutOffset = isAddition t := by
  cases t <;> rfl

theorem reduce_withoutOffsets (tokens : List Token) :
    reduce (withoutOffsets tokens) = tokensOnly (reduce tokens) := by
  rw [reduce, reduce, applySigns, signsFrom_withoutOffsets, ← applySigns, foldProducts_eq_fold,
    foldProducts_eq_fold, fold_withoutOffsets isScaling_withoutOffset pointsAtSign_multiply,
    tokensOnly_bind]
  intro scaled
  rw [foldSums_eq_fold, foldSums_eq_fold,
    fold_withoutOffsets isAddition_withoutOffset pointsAtSign_addUp]

theorem arithmetic_withoutOffsets {group group' : List Token → Except Failure (List Token)}
    (h : ∀ tokens, group' (withoutOffsets tokens) = tokensOnly (group tokens))
    (tokens : List Token) :
    arithmetic group' (withoutOffsets tokens) = tokensOnly (arithmetic group tokens) := by
  rw [arithmetic, arithmetic, readNumbers, readNumbers, mergeDigits_withoutOffsets,
    convertNumerals_withoutOffsets, tokensOnly_bind]
  intro numbers
  rw [tokensOnly_bind reduce_withoutOffsets]
  exact congrArg (· >>= reduce) (groups_withoutOffsets h [] numbers)

theorem evaluateWithin_withoutOffsets {prepare prepare' : List Token → List Token}
    (h : ∀ tokens, prepare' (withoutOffsets tokens) = withoutOffsets (prepare tokens))
    (depth : Nat) (tokens : List Token) :
    evaluateWithin prepare' depth (withoutOffsets tokens) =
      tokensOnly (evaluateWithin prepare depth tokens) := by
  induction depth generalizing tokens with
  | zero => rfl
  | succ depth ih =>
    rw [evaluateWithin, evaluateWithin, h]
    exact arithmetic_withoutOffsets ih (prepare tokens)

/-! ### Values -/

theorem find?_withoutOffsets {test : Token → Bool} (h : ∀ t, test t.withoutOffset = test t)
    (tokens : List Token) :
    (withoutOffsets tokens).find? test = (tokens.find? test).map Token.withoutOffset := by
  rw [withoutOffsets, List.find?_map]
  congr 2
  exact funext h

theorem offender?_withoutOffsets (tokens : List Token) :
    offender? (withoutOffsets tokens) = (offender? tokens).map Token.withoutOffset := by
  rw [offender?, offender?, find?_withoutOffsets fun t => by simp]
  cases tokens.find? fun t => !t.isNumber with
  | some t => rfl
  | none =>
    simp only [Option.map_none]
    exact List.getLast?_map

theorem tokens_withoutOffsets (p : Printer) (tokens : List Token) :
    p.tokens (withoutOffsets tokens) = p.tokens tokens := by
  have htext : (withoutOffsets tokens).map Token.text = tokens.map Token.text := by
    simp [withoutOffsets]
  have hwritable : (withoutOffsets tokens).all Token.isWritable = tokens.all Token.isWritable := by
    simp [withoutOffsets, Function.comp_def]
  rw [Printer.tokens, Printer.tokens, Printer.tokensText, Printer.tokensText, htext, hwritable]

theorem notReduced_withoutOffsets (tokens : List Token) :
    notReduced (withoutOffsets tokens) =
      Except.withoutOffsets Failure.withoutOffset (notReduced tokens) := by
  rw [notReduced, notReduced, find?_withoutOffsets (Token.isChar_withoutOffset · '('),
    tokens_withoutOffsets, offender?_withoutOffsets]
  cases tokens.find? (Token.isChar '(') with
  | some t => rfl
  | none =>
    simp only [Option.map_none]
    rw [Printer.tokens]
    by_cases hw : tokens.all Token.isWritable = true
    · rw [if_pos hw]
      rfl
    · rw [if_neg hw]
      rfl

theorem finalValue_withoutOffsets (tokens : List Token) :
    finalValue (withoutOffsets tokens) = Except.withoutOffsets id (finalValue tokens) := by
  have hthrow : ∀ x : Except Failure Failure,
      (do
        let e ← Except.withoutOffsets Failure.withoutOffset x
        (throw e : Except Failure Number)) =
        Except.withoutOffsets id (do let e ← x; throw e) := by
    intro x
    cases x <;> rfl
  match tokens with
  | [] => rfl
  | [.number n] => rfl
  | [.char c p] =>
    have hname : (Token.char c p).name? = (Token.char c none).name? := rfl
    have hreduced := notReduced_withoutOffsets [.char c p]
    simp only [withoutOffsets_cons, withoutOffsets_nil, Token.withoutOffset, finalValue,
      hname] at hreduced ⊢
    split
    · rfl
    · rw [hreduced, hthrow]
  | [.numeral digits] => exact (hthrow (notReduced [.numeral digits])).symm ▸ rfl
  | [.symbol name] => rfl
  | t :: u :: rest =>
    rw [withoutOffsets_cons, withoutOffsets_cons, finalValue, finalValue]
    · rw [← hthrow, ← notReduced_withoutOffsets]
      rfl
    all_goals simp

/-- Evaluation of a text does not depend on where its characters stand. -/
theorem withoutOffsets_evaluated {prepare prepare' : List Token → List Token}
    (h : ∀ tokens, prepare' (withoutOffsets tokens) = withoutOffsets (prepare tokens))
    (depth : Nat) (tokens : List Token) :
    Except.withoutOffsets id (do
        let reduced ← evaluateWithin prepare depth tokens
        finalValue reduced) = (do
      let reduced ← evaluateWithin prepare' depth (withoutOffsets tokens)
      finalValue reduced) := by
  rw [evaluateWithin_withoutOffsets h]
  cases evaluateWithin prepare depth tokens with
  | error f => rfl
  | ok reduced => exact (finalValue_withoutOffsets reduced).symm

/-- A line of plain arithmetic comes, offsets apart, to what its characters do, and it leaves the
session alone. -/
theorem withoutOffsets_compute_standard {s : Session} (hs : s.pipeline = .standard)
    (source : String) :
    Except.withoutOffsets id ((Session.compute source).result s).1 = (do
        let reduced ← evaluateWithin id ((solidChars source).length + 250)
          ((solidChars source).map Token.sign)
        finalValue reduced) ∧
      ((Session.compute source).result s).2 = s := by
  have hid : ∀ tokens, id (withoutOffsets tokens) = withoutOffsets (id tokens) := fun _ => rfl
  have hdepth : Pipeline.depthFor (tokenize source) = (solidChars source).length + 250 := by
    rw [Pipeline.depthFor_unlimited, length_tokenize]
  rw [result_compute_standard hs, hdepth]
  refine ⟨?_, rfl⟩
  dsimp only
  rw [withoutOffsets_evaluated hid, withoutOffsets_tokenize]

/-- A line of plain arithmetic has a value when its characters are reduced to it. -/
theorem compute_eq_ok_iff {s : Session} (hs : s.pipeline = .standard) {source : String}
    {n : Number} :
    ((Session.compute source).result s).1 = .ok n ↔
      evaluateWithin id ((solidChars source).length + 250)
        ((solidChars source).map Token.sign) = .ok [.number n] := by
  obtain ⟨hvalue, -⟩ := withoutOffsets_compute_standard hs source
  rw [eq_ok_iff_withoutOffsets, hvalue, value_eq_ok_iff]

end Calculator
