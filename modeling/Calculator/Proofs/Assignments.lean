import Mathlib.Tactic.ByContra
import Calculator.Proofs.Bindings
import Calculator.Proofs.Reduction
import Calculator.Proofs.Windows

/-! Assignments in expressions.  The operands of a line may be letters and assignments besides
literals.  A line first carries out its assignments, an inner one before the one around it, and each
leaves the token that it has stored; the letters are looked up afterwards. -/

namespace Calculator

/-- A letter, which is the name of a variable. -/
structure Letter where
  char : Char
  isLetter : Text.isLetter char = true

def Letter.name (x : Letter) : String := String.singleton x.char

/-- An assignment of a digit, of what another letter is bound to, or of what another assignment
stores. -/
inductive Assignment where
  | digit (x : Letter) (d : Char) (isDigit : Text.isAsciiDigit d = true)
  | copy (x y : Letter)
  | chain (x : Letter) (inner : Assignment)

namespace Assignment

/-- An assignment written out, given its keyword. -/
def spell {β : Type} (keyword : List β) (sign : Char → β) : Assignment → List β
  | digit x d _ => keyword ++ [sign '(', sign x.char, sign ',', sign d, sign ')']
  | copy x y => keyword ++ [sign '(', sign x.char, sign ',', sign y.char, sign ')']
  | chain x inner =>
      keyword ++ sign '(' :: sign x.char :: sign ',' :: (inner.spell keyword sign ++ [sign ')'])

/-- Carries an assignment out and gives the token that it stores.  A letter that is not bound cannot
be copied. -/
def perform : Assignment → StateT Environment Option Token
  | digit x d _ => do
      modify fun env => env.insert x.name (.sign d)
      pure (.sign d)
  | copy x y => do
      let env ← get
      let t ← StateT.lift (env.get? y.name)
      set (env.insert x.name t)
      pure t
  | chain x inner => do
      let t ← inner.perform
      modify fun env => env.insert x.name t
      pure t

end Assignment

inductive Operand where
  | literal (a : Literal)
  | letter (x : Letter)
  | assignment (a : Assignment)

/-- An operand after the assignments: assignments have become the tokens that they stored. -/
inductive Pending where
  | literal (a : Literal)
  | letter (x : Letter)
  | stored (t : Token)

def Operand.perform : Operand → StateT Environment Option Pending
  | .literal a => pure (.literal a)
  | .letter x => pure (.letter x)
  | .assignment a => do
      let t ← a.perform
      pure (.stored t)

def Operand.text : Operand → List Char
  | .literal a => a.digits
  | .letter x => [x.char]
  | .assignment a => a.spell setKeyword.toList id

/-- The tokens of an operand once the keywords have been made. -/
def Operand.tokens : Operand → List Token
  | .literal a => a.digits.map Token.sign
  | .letter x => [.sign x.char]
  | .assignment a => a.spell [.symbol setKeyword] Token.sign

def Pending.tokens : Pending → List Token
  | .literal a => a.digits.map Token.sign
  | .letter x => [.sign x.char]
  | .stored t => [t]

/-! ### Numeric tokens -/

/-- What stands for a number: digits, or a number. -/
inductive Numeric where
  | digits (a : Literal)
  | number (n : Number)

namespace Numeric

def toNumber : Numeric → Number
  | digits a => a.number
  | number n => n

def IsReadable : Numeric → Prop
  | digits a => a.IsReadable
  | number _ => True

def read : Numeric → Except Failure Number
  | digits a => readText (String.ofList a.digits)
  | number n => .ok n

theorem read_of_isReadable {v : Numeric} (h : v.IsReadable) : v.read = .ok v.toNumber := by
  cases v with
  | digits a =>
    have ha : a.IsReadable := h
    rw [read, readText_literal, if_pos ha]
    rfl
  | number n => rfl

end Numeric

/-- What a token stands for, if it is numeric. -/
def Token.numeric? : Token → Option Numeric
  | .char c _ =>
      if h : Text.isAsciiDigit c = true then some (.digits (.ofDigit c h)) else none
  | .numeral s =>
      if h : s.toList ≠ [] ∧ s.toList.all Text.isAsciiDigit = true then
        some (.digits ⟨s.toList, h.1, List.all_eq_true.mp h.2⟩)
      else none
  | .number n => some (.number n)
  | .symbol _ => none

/-- All tokens that are bound are numeric. -/
def Environment.IsNumeric (env : Environment) : Prop :=
  ∀ name t, env.get? name = some t → t.numeric?.isSome = true

namespace Token

variable {t : Token}

theorem numeric?_withoutOffset (t : Token) : t.withoutOffset.numeric? = t.numeric? := by
  cases t <;> rfl

theorem numeric?_digit {d : Char} (h : Text.isAsciiDigit d = true) :
    (Token.sign d).numeric? = some (.digits (.ofDigit d h)) := by
  simp [Token.sign, numeric?, h]

theorem readDigits_of_numeric {v : Numeric} (h : t.numeric? = some v) :
    readDigits t = (do let n ← v.read; .ok (.number n)) := by
  cases t with
  | char c p =>
    simp only [numeric?, Option.dite_none_right_eq_some, Option.some.injEq] at h
    obtain ⟨hc, rfl⟩ := h
    have hdigits : (char c p).digits? = some (String.ofList (Literal.ofDigit c hc).digits) := by
      rw [digits?, if_pos hc, String.singleton_eq_ofList]
      rfl
    rw [readDigits_of_digits hdigits, Numeric.read]
  | numeral s =>
    simp only [numeric?, Option.dite_none_right_eq_some, Option.some.injEq] at h
    obtain ⟨hs, rfl⟩ := h
    have hdigits : (numeral s).digits? = some (String.ofList s.toList) := by simp [digits?]
    rw [readDigits_of_digits hdigits, Numeric.read]
  | number n =>
    obtain rfl := Option.some.inj h
    rfl
  | symbol name => cases h

theorem isName_of_numeric (h : t.numeric?.isSome = true) : t.isName = false := by
  cases t with
  | char c p =>
    refine isName_eq_false_of_isDigit ?_
    rw [isDigit_char]
    by_contra hc
    simp [numeric?, hc] at h
  | numeral s => rfl
  | number n => rfl
  | symbol name => cases h

theorem isChar_of_numeric (h : t.numeric?.isSome = true) {c : Char}
    (hc : Text.isAsciiDigit c = false) : t.isChar c = false := by
  cases t with
  | char d p =>
    rw [isChar_char, decide_eq_false_iff_not]
    rintro rfl
    simp [numeric?, hc] at h
  | _ => rfl

end Token

theorem Environment.IsNumeric.insert {env : Environment} (h : env.IsNumeric) (name : String)
    {t : Token} (ht : t.numeric?.isSome = true) : (env.insert name t).IsNumeric := by
  intro other u hu
  rw [get?_insert] at hu
  split at hu
  · obtain rfl := Option.some.inj hu
    exact ht
  · exact h other u hu

theorem Environment.IsNumeric.withoutOffsets {env : Environment} (h : env.IsNumeric) :
    env.withoutOffsets.IsNumeric := by
  intro name t ht
  rw [get?_withoutOffsets] at ht
  obtain ⟨u, hu, rfl⟩ := Option.map_eq_some_iff.mp ht
  rw [Token.numeric?_withoutOffset]
  exact h name u hu

theorem Environment.isNumeric_of_withoutOffsets {env : Environment}
    (h : env.withoutOffsets.IsNumeric) : env.IsNumeric := by
  intro name t ht
  rw [← Token.numeric?_withoutOffset]
  exact h name t.withoutOffset (by rw [get?_withoutOffsets, ht]; rfl)

namespace Letter

variable (x : Letter)

theorem isChar_sign {c : Char} (hc : Text.isLetter c = false) :
    (Token.sign x.char).isChar c = false := by
  have hne : x.char ≠ c := by
    rintro rfl
    exact absurd x.isLetter (by simp [hc])
  simpa [Token.sign] using hne

theorem name?_sign : (Token.sign x.char).name? = some x.name := by
  simp [Token.sign, Token.name?, x.isLetter, name]

theorem resolve_sign {env : Environment} {t : Token} (h : env.get? x.name = some t) :
    env.resolve (.sign x.char) = t := by
  simp [Environment.resolve, x.name?_sign, h]

end Letter

theorem Literal.numeric_of_mem {a : Literal} {t : Token} (ht : t ∈ a.digits.map Token.sign) :
    t.numeric?.isSome = true := by
  obtain ⟨d, hd, rfl⟩ := List.mem_map.mp ht
  rw [Token.numeric?_digit (a.ascii d hd)]
  rfl

/-! ### Keywords -/

/-- The last token of an output, which comes first, is not the second letter of the keyword. -/
def AdmitsLetter (output : List Token) : Prop := ∀ t ∈ output.head?, t.isChar 'e' = false

theorem keywordsOnto_cons_of_not_last {t : Token} (ht : t.isChar 't' = false)
    (output tokens : List Token) :
    keywordsOnto output (t :: tokens) = keywordsOnto (t :: output) tokens :=
  keywordsOnto_append (.single ht) output tokens

theorem keywordsOnto_cons_of_admits {output : List Token} (ho : AdmitsLetter output) (t : Token)
    (tokens : List Token) :
    keywordsOnto output (t :: tokens) = keywordsOnto (t :: output) tokens := by
  have hfits : Window.fits (keywordPattern.map Window.Place.test)
      ((t :: output).take (keywordPattern.map Window.Place.test).length).reverse = false := by
    match output with
    | [] => simp [keywordTests_letters, Window.fits]
    | [u] => simp [keywordTests_letters, Window.fits]
    | u :: v :: output =>
      have hu : u.isChar 'e' = false := ho u rfl
      simp [keywordTests_letters, Window.fits, hu]
  rw [keywordsOnto, Window.scanOnto]
  simp only [hfits, Bool.false_eq_true, if_false]
  rfl

/-- The letters of the keyword make a keyword wherever they come together. -/
theorem keywordsOnto_keyword (output tokens : List Token) :
    keywordsOnto output (.sign 's' :: .sign 'e' :: .sign 't' :: tokens) =
      keywordsOnto (.symbol setKeyword :: output) tokens := by
  have hfits : Window.fits (keywordPattern.map Window.Place.test)
      ([.sign 'e', .sign 's'].reverse ++ [.sign 't']) = true := by decide
  rw [keywordsOnto_cons_of_not_last (by decide), keywordsOnto_cons_of_not_last (by decide)]
  exact congrArg Id.run (Window.scanOnto_cons_of_fits (m := Id) hfits output tokens)

theorem Assignment.map_spell {β γ : Type} (f : β → γ) (keyword : List β) (sign : Char → β)
    (a : Assignment) :
    (a.spell keyword sign).map f = a.spell (keyword.map f) fun c => f (sign c) := by
  induction a <;> simp_all [spell]

/-- A sign other than the second letter of the keyword admits a letter behind it. -/
theorem admitsLetter_cons {t : Token} (ht : t.isChar 'e' = false) (output : List Token) :
    AdmitsLetter (t :: output) := by
  intro u hu
  obtain rfl := Option.some.inj hu
  exact ht

theorem keywordsOnto_open (x : Letter) (output tokens : List Token) :
    keywordsOnto output (setKeyword.toList.map Token.sign ++
        .sign '(' :: .sign x.char :: .sign ',' :: tokens) =
      keywordsOnto (.sign ',' :: .sign x.char :: .sign '(' :: .symbol setKeyword :: output)
        tokens := by
  have hadmits : AdmitsLetter (.sign '(' :: .symbol setKeyword :: output) :=
    admitsLetter_cons (by decide) _
  have hword : setKeyword.toList.map Token.sign = [.sign 's', .sign 'e', .sign 't'] := rfl
  rw [hword, List.cons_append, List.cons_append, List.cons_append, List.nil_append,
    keywordsOnto_keyword, keywordsOnto_cons_of_not_last (by decide),
    keywordsOnto_cons_of_admits hadmits, keywordsOnto_cons_of_not_last (by decide)]

/-- The keywords of an assignment and of those inside it are made. -/
theorem keywordsOnto_assignment (a : Assignment) (output rest : List Token) :
    keywordsOnto output (a.spell (setKeyword.toList.map Token.sign) Token.sign ++ rest) =
      keywordsOnto ((a.spell [.symbol setKeyword] Token.sign).reverse ++ output) rest := by
  have hclose : (Token.sign ')').isChar 't' = false := by decide
  induction a generalizing output rest with
  | digit x d hd =>
    have hd' : (Token.sign d).isChar 't' = false :=
      Token.isChar_of_numeric (by rw [Token.numeric?_digit hd]; rfl) (by decide)
    simp only [Assignment.spell, List.append_assoc, List.cons_append, List.nil_append]
    rw [keywordsOnto_open, keywordsOnto_cons_of_not_last hd', keywordsOnto_cons_of_not_last hclose]
    simp
  | copy x y =>
    have hadmits : ∀ output, AdmitsLetter (.sign ',' :: output) :=
      admitsLetter_cons (by decide)
    simp only [Assignment.spell, List.append_assoc, List.cons_append, List.nil_append]
    rw [keywordsOnto_open, keywordsOnto_cons_of_admits (hadmits _),
      keywordsOnto_cons_of_not_last hclose]
    simp
  | chain x inner ih =>
    simp only [Assignment.spell, List.append_assoc, List.cons_append, List.nil_append]
    rw [keywordsOnto_open, ih, keywordsOnto_cons_of_not_last hclose]
    simp

theorem keywordsOnto_operand (o : Operand) {output : List Token} (ho : AdmitsLetter output)
    (rest : List Token) :
    keywordsOnto output (o.text.map Token.sign ++ rest) =
      keywordsOnto (o.tokens.reverse ++ output) rest := by
  cases o with
  | literal a =>
    have hdigits : Lacks 't' (a.digits.map Token.sign) := fun t ht =>
      Token.isChar_of_numeric (Literal.numeric_of_mem ht) (by decide)
    exact keywordsOnto_append hdigits output rest
  | letter x => exact keywordsOnto_cons_of_admits ho (.sign x.char) rest
  | assignment a =>
    rw [Operand.text, a.map_spell]
    exact keywordsOnto_assignment a output rest

theorem keywordsOnto_lexemes {L : List (Lexeme Operand)}
    (hL : Separated (· ∈ Expression.signs) L) {output : List Token} (ho : AdmitsLetter output) :
    keywordsOnto output (L.flatMap (Lexeme.spell Token.sign fun o => o.text.map Token.sign)) =
      output.reverse ++ L.flatMap (Lexeme.spell Token.sign Operand.tokens) := by
  have hsign : ∀ c ∈ Expression.signs, (Token.sign c).isChar 't' = false ∧
      (Token.sign c).isChar 'e' = false := Expression.forall_mem_signs.mpr (by decide)
  have hadmits : ∀ c ∈ Expression.signs, ∀ output, AdmitsLetter (.sign c :: output) :=
    fun c hc => admitsLetter_cons (hsign c hc).2
  induction hL generalizing output with
  | nil => simp [keywordsOnto, Window.scanOnto]
  | @sign c L hc _ ih =>
    simp only [List.flatMap_cons, Lexeme.spell_sign, List.cons_append, List.nil_append]
    rw [keywordsOnto_cons_of_not_last (hsign c hc).1, ih (hadmits c hc output)]
    simp
  | atom a =>
    simp only [List.flatMap_cons, List.flatMap_nil, Lexeme.spell_atom]
    rw [keywordsOnto_operand a ho]
    simp [keywordsOnto, Window.scanOnto]
  | @atom_sign a c L hc _ ih =>
    simp only [List.flatMap_cons, Lexeme.spell_atom, Lexeme.spell_sign, List.cons_append,
      List.nil_append]
    rw [keywordsOnto_operand a ho, keywordsOnto_cons_of_not_last (hsign c hc).1,
      ih (hadmits c hc _)]
    simp

/-! ### Assignments -/

theorem assignmentsOnto_cons {t : Token} (ht : t.isChar ')' = false) (output tokens : List Token) :
    assignmentsOnto output (t :: tokens) = assignmentsOnto (t :: output) tokens :=
  assignmentsOnto_append (.single ht) output tokens

/-- Whether a closing parenthesis behind an output, the last token first, completes an
assignment. -/
def completesAssignment (output : List Token) : Bool :=
  Window.fits (assignmentPattern.map Window.Place.test)
    ((.sign ')' :: output).take assignmentPattern.length).reverse

theorem assignmentsOnto_close {output : List Token} (ho : completesAssignment output = false)
    (tokens : List Token) :
    assignmentsOnto output (.sign ')' :: tokens) =
      assignmentsOnto (.sign ')' :: output) tokens := by
  have hfits : Window.fits (assignmentPattern.map Window.Place.test)
      ((.sign ')' :: output).take (assignmentPattern.map Window.Place.test).length).reverse =
        false := ho
  rw [assignmentsOnto, Window.scanOnto]
  simp only [hfits, Bool.false_eq_true, if_false]
  rfl

/-- Where there is no comma, there is no assignment. -/
theorem isFree_of_noComma {tokens : List Token} (h : Lacks ',' tokens) :
    Window.IsFree (assignmentPattern.map Window.Place.test) tokens := by
  have hpattern : assignmentPattern.map Window.Place.test =
      [(Window.Place.literal (.symbol setKeyword)).test,
        (Window.Place.literal (.char '(' none)).test, Window.Place.any.test,
        (Window.Place.literal (.char ',' none)).test, Window.Place.any.test,
        (Window.Place.literal (.char ')' none)).test] := rfl
  intro window hw
  rw [← Bool.not_eq_true]
  intro hfits
  have hlength : window.length = 6 := Window.length_eq_of_fits hfits
  match window, hlength with
  | [_, _, _, comma, _, _], _ =>
    have hcomma : comma.isChar ',' = false := h comma (hw.subset (by simp))
    simp [hpattern, Window.fits, hcomma] at hfits

theorem assignments_of_noComma {tokens : List Token} (h : Lacks ',' tokens) :
    assignments tokens = pure tokens :=
  (isFree_of_noComma h).scan assignmentWindow

/-- Where no comma is left on the output, no assignment has been begun, and a closing parenthesis
completes none. -/
theorem completesAssignment_of_lacks {output : List Token} (ho : Lacks ',' output) :
    completesAssignment output = false :=
  (isFree_of_noComma (ho.cons (t := .sign ')') (by decide)).reverse).fits_take

theorem assignmentsOnto_assign (name value : Token) (output tokens : List Token) :
    assignmentsOnto (value :: .sign ',' :: name :: .sign '(' :: .symbol setKeyword :: output)
        (.sign ')' :: tokens) = (do
      let stored ← assign name value
      assignmentsOnto (stored.reverse ++ output) tokens) := by
  have hfits : Window.fits (assignmentPattern.map Window.Place.test)
      ([value, .sign ',', name, .sign '(', .symbol setKeyword].reverse ++ [.sign ')']) = true := by
    simp [Window.fits, assignmentPattern]
    decide
  exact Window.scanOnto_cons_of_fits hfits output tokens

theorem result_assign (x : Letter) (value : Token) (env : Environment) :
    (assign (.sign x.char) value).result env =
      (.ok [env.resolve value], env.insert x.name (env.resolve value)) := by
  rw [assign, x.name?_sign]
  rfl

theorem resolve_of_numeric {t : Token} (h : t.numeric?.isSome = true) (env : Environment) :
    env.resolve t = t :=
  Environment.resolve_of_not_isName (Token.isName_of_numeric h)

theorem assignmentsOnto_open (x : Letter) (output tokens : List Token) :
    assignmentsOnto output (.symbol setKeyword :: .sign '(' :: .sign x.char :: .sign ',' ::
        tokens) =
      assignmentsOnto (.sign ',' :: .sign x.char :: .sign '(' :: .symbol setKeyword :: output)
        tokens := by
  have hx : (Token.sign x.char).isChar ')' = false := x.isChar_sign (by decide)
  rw [assignmentsOnto_cons rfl, assignmentsOnto_cons (by decide), assignmentsOnto_cons hx,
    assignmentsOnto_cons (by decide)]

/-- The end of an assignment stores the value, which is resolved first, and leaves it. -/
theorem result_assignmentsOnto_close (x : Letter) {value t : Token} {env : Environment}
    (ht : env.resolve value = t) (output rest : List Token) :
    (assignmentsOnto (value :: .sign ',' :: .sign x.char :: .sign '(' :: .symbol setKeyword ::
        output) (.sign ')' :: rest)).result env =
      (assignmentsOnto (t :: output) rest).result (env.insert x.name t) := by
  rw [assignmentsOnto_assign, Action.result_bind, result_assign, ht]
  rfl

/-- What an assignment stores and the environment that it leaves, as the scan has them. -/
theorem result_assignmentsOnto_assignment {a : Assignment} {env env' : Environment} {t : Token}
    (h : a.perform.run env = some (t, env')) (henv : env.IsNumeric) (output rest : List Token) :
    t.numeric?.isSome = true ∧ env'.IsNumeric ∧
      (assignmentsOnto output (a.spell [.symbol setKeyword] Token.sign ++ rest)).result env =
        (assignmentsOnto (t :: output) rest).result env' := by
  induction a generalizing env env' t output rest with
  | digit x d hd =>
    obtain ⟨rfl, rfl⟩ := Prod.mk.inj (Option.some.inj h)
    have hnumeric : (Token.sign d).numeric?.isSome = true := by rw [Token.numeric?_digit hd]; rfl
    have hd' : (Token.sign d).isChar ')' = false :=
      Token.isChar_of_numeric hnumeric (by decide)
    refine ⟨hnumeric, henv.insert x.name hnumeric, ?_⟩
    simp only [Assignment.spell, List.cons_append, List.nil_append]
    rw [assignmentsOnto_open, assignmentsOnto_cons hd',
      result_assignmentsOnto_close x (resolve_of_numeric hnumeric env)]
  | copy x y =>
    cases hy : env.get? y.name with
    | none => simp [Assignment.perform, hy] at h
    | some u =>
      have hstored : (u, env.insert x.name u) = (t, env') := by
        simpa [Assignment.perform, hy] using h
      obtain ⟨rfl, rfl⟩ := Prod.mk.inj hstored
      have hnumeric := henv y.name u hy
      have hclose : (Token.sign y.char).isChar ')' = false := y.isChar_sign (by decide)
      refine ⟨hnumeric, henv.insert x.name hnumeric, ?_⟩
      simp only [Assignment.spell, List.cons_append, List.nil_append]
      rw [assignmentsOnto_open, assignmentsOnto_cons hclose,
        result_assignmentsOnto_close x (y.resolve_sign hy)]
  | chain x inner ih =>
    cases hinner : inner.perform.run env with
    | none => simp [Assignment.perform, hinner] at h
    | some stored =>
      obtain ⟨u, env''⟩ := stored
      have hstored : (u, env''.insert x.name u) = (t, env') := by
        simpa [Assignment.perform, hinner] using h
      obtain ⟨rfl, rfl⟩ := Prod.mk.inj hstored
      simp only [Assignment.spell, List.cons_append, List.nil_append, List.append_assoc]
      obtain ⟨hnumeric, henv'', hrun⟩ := ih hinner henv
        (.sign ',' :: .sign x.char :: .sign '(' :: .symbol setKeyword :: output)
        (.sign ')' :: rest)
      refine ⟨hnumeric, henv''.insert x.name hnumeric, ?_⟩
      rw [assignmentsOnto_open, hrun,
        result_assignmentsOnto_close x (resolve_of_numeric hnumeric env'')]

/-- Where no assignment has been begun, none is after an operand, whose own are carried out. -/
theorem result_assignmentsOnto_operand {o : Operand} {p : Pending} {env env' : Environment}
    (h : o.perform.run env = some (p, env')) (henv : env.IsNumeric) {output : List Token}
    (ho : Lacks ',' output) (rest : List Token) :
    env'.IsNumeric ∧ Lacks ',' (p.tokens.reverse ++ output) ∧
      (assignmentsOnto output (o.tokens ++ rest)).result env =
        (assignmentsOnto (p.tokens.reverse ++ output) rest).result env' := by
  cases o with
  | literal a =>
    obtain ⟨rfl, rfl⟩ := Prod.mk.inj (Option.some.inj h)
    have hcomma : Lacks ',' (Pending.literal a).tokens := fun t ht =>
      Token.isChar_of_numeric (Literal.numeric_of_mem ht) (by decide)
    have hclose : Lacks ')' (Pending.literal a).tokens := fun t ht =>
      Token.isChar_of_numeric (Literal.numeric_of_mem ht) (by decide)
    exact ⟨henv, hcomma.reverse.append ho, by rw [← assignmentsOnto_append hclose]; rfl⟩
  | letter x =>
    obtain ⟨rfl, rfl⟩ := Prod.mk.inj (Option.some.inj h)
    have hcomma : Lacks ',' (Pending.letter x).tokens := .single (x.isChar_sign (by decide))
    have hclose : Lacks ')' (Pending.letter x).tokens := .single (x.isChar_sign (by decide))
    exact ⟨henv, hcomma.reverse.append ho, by rw [← assignmentsOnto_append hclose]; rfl⟩
  | assignment a =>
    cases ha : a.perform.run env with
    | none => simp [Operand.perform, ha] at h
    | some stored =>
      obtain ⟨t, env''⟩ := stored
      have hstored : (Pending.stored t, env'') = (p, env') := by
        simpa [Operand.perform, ha] using h
      obtain ⟨rfl, rfl⟩ := Prod.mk.inj hstored
      obtain ⟨hnumeric, henv', hrun⟩ := result_assignmentsOnto_assignment ha henv output rest
      have hcomma : Lacks ',' (Pending.stored t).tokens :=
        .single (Token.isChar_of_numeric hnumeric (by decide))
      exact ⟨henv', hcomma.reverse.append ho, hrun⟩

/-- The assignments among some lexemes are carried out from left to right, and the rest is left. -/
theorem result_assignmentsOnto_lexemes {L : List (Lexeme Operand)} {M : List (Lexeme Pending)}
    {env env' : Environment} (hL : ∀ c, .sign c ∈ L → c ∈ Expression.signs)
    (h : (L.mapM (Lexeme.mapM Operand.perform)).run env = some (M, env')) (henv : env.IsNumeric)
    {output : List Token} (ho : Lacks ',' output) :
    env'.IsNumeric ∧
      (assignmentsOnto output (L.flatMap (Lexeme.spell Token.sign Operand.tokens))).result env =
        (.ok (output.reverse ++ M.flatMap (Lexeme.spell Token.sign Pending.tokens)), env') := by
  induction L generalizing env M output with
  | nil =>
    obtain ⟨rfl, rfl⟩ := Prod.mk.inj (Option.some.inj h)
    exact ⟨henv, by simp [assignmentsOnto, Window.scanOnto]⟩
  | cons l L ih =>
    have htail : ∀ c, .sign c ∈ L → c ∈ Expression.signs := fun c hc =>
      hL c (List.mem_cons_of_mem _ hc)
    rw [List.mapM_cons, StateT.run_bind] at h
    obtain ⟨⟨m, env''⟩, hl, h⟩ := Option.bind_eq_some_iff.mp h
    rw [StateT.run_bind] at h
    obtain ⟨⟨M', env'''⟩, hM, h⟩ := Option.bind_eq_some_iff.mp h
    obtain ⟨rfl, rfl⟩ := Prod.mk.inj (Option.some.inj h)
    cases l with
    | sign c =>
      obtain ⟨rfl, rfl⟩ := Prod.mk.inj (Option.some.inj hl)
      have hsigns : ∀ c ∈ Expression.signs, (Token.sign c).isChar ',' = false :=
        Expression.forall_mem_signs.mpr (by decide)
      have hcomma : Lacks ',' [.sign c] := .single (hsigns c (hL c (by simp)))
      have hpush : ∀ tokens, assignmentsOnto output (.sign c :: tokens) =
          assignmentsOnto (.sign c :: output) tokens := by
        intro tokens
        by_cases hc : c = ')'
        · rw [hc, assignmentsOnto_close (completesAssignment_of_lacks ho)]
        · exact assignmentsOnto_cons (by simpa [Token.sign] using hc) output tokens
      obtain ⟨henv', hrun⟩ := ih htail hM henv (hcomma.reverse.append ho)
      refine ⟨henv', ?_⟩
      rw [List.flatMap_cons, Lexeme.spell_sign, List.cons_append, hpush]
      exact hrun.trans (by simp)
    | atom o =>
      simp only [Lexeme.mapM, StateT.run_bind] at hl
      obtain ⟨⟨p, env₁⟩, hp, hl⟩ := Option.bind_eq_some_iff.mp hl
      obtain ⟨rfl, rfl⟩ := Prod.mk.inj (Option.some.inj hl)
      obtain ⟨henv₁, hcomma, hstep⟩ := result_assignmentsOnto_operand hp henv ho
        (L.flatMap (Lexeme.spell Token.sign Operand.tokens))
      obtain ⟨henv', hrun⟩ := ih htail hM henv₁ hcomma
      refine ⟨henv', ?_⟩
      rw [List.flatMap_cons, Lexeme.spell_atom, hstep, hrun]
      simp

end Calculator
