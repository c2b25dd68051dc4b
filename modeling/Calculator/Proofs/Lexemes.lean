import Mathlib.Data.List.Basic
import Mathlib.Data.List.TakeWhile
import Mathlib.Data.Nat.Digits.Defs
import Mathlib.Tactic.ByContra
import Calculator.Proofs.Offsets

/-! Lexemes.  A list of tokens whose digits stand in runs with signs between them is read run by
run: no digit of one run reaches another, whatever the runs consist of. -/

namespace Calculator

inductive Lexeme (α : Type) where
  | sign (c : Char)
  | atom (a : α)

namespace Lexeme

variable {α β : Type}

/-- A lexeme written out, given how atoms are. -/
def spell (sign : Char → β) (atom : α → List β) : Lexeme α → List β
  | .sign c => [sign c]
  | .atom a => atom a

def map (f : α → β) : Lexeme α → Lexeme β
  | .sign c => .sign c
  | .atom a => .atom (f a)

@[simp] theorem spell_sign (sign : Char → β) (atom : α → List β) (c : Char) :
    spell sign atom (.sign c) = [sign c] := rfl

@[simp] theorem spell_atom (sign : Char → β) (atom : α → List β) (a : α) :
    spell sign atom (.atom a) = atom a := rfl

/-- The token of a lexeme that is a number where it is no sign. -/
def token : Lexeme Number → Token
  | .sign c => .sign c
  | .atom n => .number n

/-- The lexeme with what an action makes of its atom. -/
def mapM {m : Type → Type} [Monad m] (f : α → m β) : Lexeme α → m (Lexeme β)
  | .sign c => pure (.sign c)
  | .atom a => do
      let b ← f a
      pure (.atom b)

/-- The token that a lexeme is read as, given what atoms are. -/
def read (number : α → Except Failure Number) : Lexeme α → Except Failure Token
  | .sign c => .ok (.sign c)
  | .atom a => do
      let n ← number a
      .ok (.number n)

end Lexeme

/-- Signs, and atoms of which no two stand side by side. -/
inductive Separated {α : Type} (isSign : Char → Prop) : List (Lexeme α) → Prop
  | nil : Separated isSign []
  | sign {c : Char} {L : List (Lexeme α)} : isSign c → Separated isSign L →
      Separated isSign (.sign c :: L)
  | atom (a : α) : Separated isSign [.atom a]
  | atom_sign (a : α) {c : Char} {L : List (Lexeme α)} : isSign c → Separated isSign L →
      Separated isSign (.atom a :: .sign c :: L)

namespace Separated

variable {α : Type} {isSign : Char → Prop} {L M : List (Lexeme α)}

theorem append_sign (h : Separated isSign L) {c : Char} (hc : isSign c)
    (h' : Separated isSign M) : Separated isSign (L ++ .sign c :: M) := by
  induction h with
  | nil => exact .sign hc h'
  | sign hd _ ih => exact .sign hd ih
  | atom a => exact .atom_sign a hc h'
  | atom_sign a hd _ ih => exact .atom_sign a hd ih

theorem mono (h : Separated isSign L) {isSign' : Char → Prop} (hs : ∀ c, isSign c → isSign' c) :
    Separated isSign' L := by
  induction h with
  | nil => exact .nil
  | sign hc _ ih => exact .sign (hs _ hc) ih
  | atom a => exact .atom a
  | atom_sign a hc _ ih => exact .atom_sign a (hs _ hc) ih

theorem isSign_of_mem (h : Separated isSign L) {c : Char} (hc : .sign c ∈ L) : isSign c := by
  induction h with
  | nil => cases hc
  | sign hd _ ih =>
    rcases List.mem_cons.mp hc with hc | hc
    · obtain rfl := Lexeme.sign.inj hc
      exact hd
    · exact ih hc
  | atom a => simp at hc
  | atom_sign a hd _ ih =>
    simp only [List.mem_cons, reduceCtorEq, false_or] at hc
    rcases hc with hc | hc
    · obtain rfl := Lexeme.sign.inj hc
      exact hd
    · exact ih hc

theorem tail {l : Lexeme α} (h : Separated isSign (l :: L)) : Separated isSign L := by
  cases h with
  | sign _ h => exact h
  | atom a => exact .nil
  | atom_sign a hc h => exact .sign hc h

theorem of_append_right (h : Separated isSign (L ++ M)) : Separated isSign M := by
  induction L with
  | nil => exact h
  | cons l L ih => exact ih h.tail

theorem of_append_left (h : Separated isSign (L ++ M)) : Separated isSign L := by
  generalize hN : L ++ M = N at h
  induction h generalizing L with
  | nil =>
    rw [List.append_eq_nil_iff] at hN
    exact hN.1 ▸ .nil
  | sign hc _ ih =>
    cases L with
    | nil => exact .nil
    | cons l L =>
      obtain ⟨rfl, hrest⟩ := List.cons.inj hN
      exact .sign hc (ih hrest)
  | atom a =>
    cases L with
    | nil => exact .nil
    | cons l L =>
      obtain ⟨rfl, hrest⟩ := List.cons.inj hN
      rw [(List.append_eq_nil_iff.mp hrest).1]
      exact .atom a
  | atom_sign a hc _ ih =>
    match L with
    | [] => exact .nil
    | [l] =>
      obtain ⟨rfl, -⟩ := List.cons.inj hN
      exact .atom a
    | l :: l' :: L =>
      obtain ⟨rfl, hrest⟩ := List.cons.inj hN
      obtain ⟨rfl, hrest'⟩ := List.cons.inj hrest
      exact .atom_sign a hc (ih hrest')

end Separated

/-- Whether a character is no digit, which is all that keeps runs of digits apart. -/
def IsNoDigit (c : Char) : Prop := Text.isAsciiDigit c = false

/-! ### Runs of digits -/

/-- The last token of an output, which comes first, takes no digits on. -/
def TakesNoDigits (output : List Token) : Prop := ∀ t ∈ output.head?, t.isDigit = false

theorem joinDigits_of_not_isDigit {t : Token} (ht : t.isDigit = false) (output : List Token) :
    joinDigits output t = t :: output := by
  have hd : t.digits? = none := by simpa [Token.isDigit] using ht
  cases output with
  | nil => rfl
  | cons last output => simp [joinDigits, hd]

theorem joinDigits_of_takesNoDigits {output : List Token} (h : TakesNoDigits output) (t : Token) :
    joinDigits output t = t :: output := by
  cases output with
  | nil => rfl
  | cons last output =>
    have hd : last.digits? = none := by simpa [Token.isDigit] using h last rfl
    simp [joinDigits, hd]

/-- Tokens that stand for a number: put on an output they make one token, and this reads as `r`. -/
def StandFor (tokens : List Token) (r : Except Failure Number) : Prop :=
  ∃ t, readDigits t = (do let n ← r; .ok (.number n)) ∧
    ∀ output, TakesNoDigits output → tokens.foldl joinDigits output = t :: output

theorem standFor_singleton {t : Token} {r : Except Failure Number}
    (h : readDigits t = (do let n ← r; .ok (.number n))) : StandFor [t] r :=
  ⟨t, h, fun _ ho => joinDigits_of_takesNoDigits ho t⟩

/-- Digits behind a run of digits go on with the run. -/
theorem foldl_joinDigits {t : Token} {run : String} (ht : t.digits? = some run)
    {digits : List Char} (hd : ∀ c ∈ digits, Text.isAsciiDigit c = true) :
    ∃ u : Token, u.digits? = some (run ++ String.ofList digits) ∧
      ∀ output, (digits.map Token.sign).foldl joinDigits (t :: output) = u :: output := by
  induction digits generalizing t run with
  | nil => exact ⟨t, by simp [ht], fun _ => rfl⟩
  | cons c digits ih =>
    have hc : (Token.sign c).digits? = some (String.singleton c) := by
      simp [Token.sign, Token.digits?, hd c (by simp)]
    obtain ⟨u, hrun, hu⟩ := ih (t := .numeral (run ++ String.singleton c)) rfl
      (fun d h => hd d (List.mem_cons_of_mem _ h))
    refine ⟨u, ?_, fun output => ?_⟩
    · rw [hrun, String.append_assoc]
      congr 2
      apply String.toList_injective
      simp
    · have hjoin : joinDigits (t :: output) (.sign c) =
          .numeral (run ++ String.singleton c) :: output := by
        simp [joinDigits, ht, hc]
      rw [List.map_cons, List.foldl_cons, hjoin, hu]

def readText (text : String) : Except Failure Number :=
  match Decimal.readInteger 10 text with
  | .ok i => .ok (.int i)
  | .error f => .error (.unreadable f)

theorem readDigits_of_digits {t : Token} {run : String} (h : t.digits? = some run) :
    readDigits t = (do let n ← readText run; .ok (.number n)) := by
  simp only [readDigits, h, readText]
  cases Decimal.readInteger 10 run <;> rfl

/-- Digit characters stand for what their text reads as. -/
theorem standFor_digits {digits : List Char} (hne : digits ≠ [])
    (hd : ∀ c ∈ digits, Text.isAsciiDigit c = true) :
    StandFor (digits.map Token.sign) (readText (String.ofList digits)) := by
  obtain ⟨c, digits, rfl⟩ := List.exists_cons_of_ne_nil hne
  have hc : (Token.sign c).digits? = some (String.singleton c) := by
    simp [Token.sign, Token.digits?, hd c (by simp)]
  obtain ⟨u, hrun, hu⟩ := foldl_joinDigits hc fun d h => hd d (List.mem_cons_of_mem _ h)
  have htext : String.singleton c ++ String.ofList digits = String.ofList (c :: digits) := by
    apply String.toList_injective
    simp
  rw [htext] at hrun
  refine ⟨u, readDigits_of_digits hrun, fun output ho => ?_⟩
  rw [List.map_cons, List.foldl_cons, joinDigits_of_takesNoDigits ho, hu]

/-! ### Reading lexemes -/

theorem isDigit_sign {c : Char} (h : Text.isAsciiDigit c = false) :
    (Token.sign c).isDigit = false :=
  (Token.isDigit_char c none).trans h

section Read

variable {α : Type} {spelled : α → List Token} {number : α → Except Failure Number}

/-- A sign goes on the output and keeps the digits on both sides apart. -/
theorem joinDigits_sign {c : Char} (hc : Text.isAsciiDigit c = false) (output : List Token) :
    joinDigits output (.sign c) = .sign c :: output ∧ TakesNoDigits (.sign c :: output) := by
  refine ⟨joinDigits_of_not_isDigit (isDigit_sign hc) output, fun t ht => ?_⟩
  obtain rfl := Option.some.inj ht
  exact isDigit_sign hc

theorem convertNumerals_sign {c : Char} (hc : Text.isAsciiDigit c = false) (tokens : List Token) :
    convertNumerals (.sign c :: tokens) =
      (do let read ← convertNumerals tokens; .ok (.sign c :: read)) := by
  rw [convertNumerals_cons, readDigits_of_not_isDigit (isDigit_sign hc), Except.ok_bind]

/-- On an output that takes no digits on, lexemes make a token each. -/
theorem foldl_joinDigits_lexemes {L : List (Lexeme α)} (hL : Separated IsNoDigit L)
    (h : ∀ a, .atom a ∈ L → StandFor (spelled a) (number a)) {output : List Token}
    (ho : TakesNoDigits output) :
    ∃ merged, convertNumerals merged = L.mapM (Lexeme.read number) ∧
      (L.flatMap (Lexeme.spell Token.sign spelled)).foldl joinDigits output =
        merged.reverse ++ output := by
  induction hL generalizing output with
  | nil => exact ⟨[], rfl, rfl⟩
  | @sign c L hc _ ih =>
    obtain ⟨hjoin, ho'⟩ := joinDigits_sign hc output
    obtain ⟨merged, hread, hfold⟩ := ih (fun a ha => h a (List.mem_cons_of_mem _ ha)) ho'
    refine ⟨.sign c :: merged, ?_, ?_⟩
    · rw [convertNumerals_sign hc, hread, List.mapM_cons]
      rfl
    · simp [hjoin, hfold]
  | atom a =>
    obtain ⟨t, hread, hfold⟩ := h a (by simp)
    refine ⟨[t], ?_, ?_⟩
    · rw [convertNumerals_cons, hread, List.mapM_cons]
      rfl
    · simp [hfold output ho]
  | @atom_sign a c L hc _ ih =>
    obtain ⟨t, hread, hfold⟩ := h a (by simp)
    obtain ⟨hjoin, ho'⟩ := joinDigits_sign hc (t :: output)
    obtain ⟨merged, hread', hfold'⟩ := ih (fun a ha => h a (by simp [ha])) ho'
    refine ⟨t :: .sign c :: merged, ?_, ?_⟩
    · rw [convertNumerals_cons, convertNumerals_sign hc, hread, hread', List.mapM_cons,
        List.mapM_cons]
      rfl
    · simp [hfold output ho, hjoin, hfold']

theorem readNumbers_lexemes {L : List (Lexeme α)} (hL : Separated IsNoDigit L)
    (h : ∀ a, .atom a ∈ L → StandFor (spelled a) (number a)) :
    readNumbers (L.flatMap (Lexeme.spell Token.sign spelled)) = L.mapM (Lexeme.read number) := by
  have hnone : TakesNoDigits [] := by simp [TakesNoDigits]
  obtain ⟨merged, hread, hfold⟩ := foldl_joinDigits_lexemes hL h hnone
  rw [readNumbers, mergeDigits, hfold, ← hread, List.append_nil, List.reverse_reverse]

theorem mapM_read (L : List (Lexeme α)) :
    L.mapM (Lexeme.read number) =
      (do let M ← L.mapM (Lexeme.mapM number); .ok (M.map Lexeme.token)) := by
  induction L with
  | nil => rfl
  | cons l L ih =>
    rw [List.mapM_cons, List.mapM_cons, ih]
    cases l with
    | sign c => cases L.mapM (Lexeme.mapM number) <;> rfl
    | atom a =>
      simp only [Lexeme.read, Lexeme.mapM]
      cases number a with
      | error f => rfl
      | ok n => cases L.mapM (Lexeme.mapM number) <;> rfl

end Read

/-! ### Literals -/

/-- A run of ASCII digits. -/
structure Literal where
  digits : List Char
  nonempty : digits ≠ []
  ascii : ∀ c ∈ digits, Text.isAsciiDigit c = true

namespace Literal

def ofDigit (c : Char) (h : Text.isAsciiDigit c = true) : Literal where
  digits := [c]
  nonempty := List.cons_ne_nil c []
  ascii := fun d hd => by rwa [List.mem_singleton.mp hd]

/-- The value of a literal in base ten, the first digit being the greatest. -/
def value (l : Literal) : Nat :=
  Nat.ofDigits 10 (l.digits.reverse.map fun c => c.toNat - '0'.toNat)

def number (l : Literal) : Number := .int l.value

/-- Whether a literal is not too long to be read. -/
def IsReadable (l : Literal) : Prop := l.digits.length ≤ Decimal.digitLimit

instance (l : Literal) : Decidable l.IsReadable := Nat.decLe _ _

end Literal

section Digits

variable {c : Char}

theorem toNat_of_isAsciiDigit (h : Text.isAsciiDigit c = true) : 48 ≤ c.toNat ∧ c.toNat ≤ 57 := by
  simp only [Text.isAsciiDigit, Bool.and_eq_true, decide_eq_true_eq] at h
  exact h

theorem toAscii_of_isAsciiDigit (h : Text.isAsciiDigit c = true) : Decimal.toAscii c = c := by
  have hc := toNat_of_isAsciiDigit h
  rw [Decimal.toAscii, if_pos (by omega)]

theorem digitOf?_of_isAsciiDigit (h : Text.isAsciiDigit c = true) :
    Decimal.digitOf? 10 c = some (c.toNat - '0'.toNat) := by
  have hc := toNat_of_isAsciiDigit h
  have hrange : '0' ≤ c ∧ c ≤ '9' := hc
  have hz : '0'.toNat = 48 := rfl
  simp only [Decimal.digitOf?, if_pos hrange, hz]
  rw [if_pos (by omega)]

theorem ne_of_isAsciiDigit (h : Text.isAsciiDigit c = true) {d : Char}
    (hd : Text.isAsciiDigit d = false) : c ≠ d := by
  rintro rfl
  rw [h] at hd
  cases hd

theorem isSpace_of_isAsciiDigit (h : Text.isAsciiDigit c = true) : Decimal.isSpace c = false := by
  have hc := toNat_of_isAsciiDigit h
  have hne : c ≠ ' ' := ne_of_isAsciiDigit h (by decide)
  simp only [Decimal.isSpace, hne, decide_false, Bool.false_or, Bool.and_eq_false_iff,
    decide_eq_false_iff_not]
  omega

end Digits

theorem wellSpaced_of_isAsciiDigit {digits : List Char}
    (h : ∀ c ∈ digits, Text.isAsciiDigit c = true) : Decimal.wellSpaced digits = true := by
  induction digits with
  | nil => rfl
  | cons c digits ih =>
    have hc : c ≠ '_' := ne_of_isAsciiDigit (h c (by simp)) (by decide)
    have hrest := ih fun d hd => h d (List.mem_cons_of_mem _ hd)
    cases digits with
    | nil => simp [Decimal.wellSpaced]
    | cons d digits =>
      have hd : d ≠ '_' := ne_of_isAsciiDigit (h d (by simp)) (by decide)
      rw [Decimal.wellSpaced]
      · exact hrest
      · exact fun h' => hc (by simpa using h')
      · simpa using hd

theorem takeSign_of_isAsciiDigit {c : Char} (h : Text.isAsciiDigit c = true)
    (digits : List Char) : Decimal.takeSign (c :: digits) = (false, c :: digits) := by
  have hminus : c ≠ '-' := ne_of_isAsciiDigit h (by decide)
  have hplus : c ≠ '+' := ne_of_isAsciiDigit h (by decide)
  unfold Decimal.takeSign
  split <;> simp_all

theorem skipBaseMark_ten (s : List Char) : Decimal.skipBaseMark 10 s = s := by
  simp [Decimal.skipBaseMark, Decimal.baseMark]

theorem digitsValue_literal (l : Literal) :
    Decimal.digitsValue 10 (l.digits.map fun c => c.toNat - '0'.toNat) = l.value := by
  rw [Literal.value, Nat.ofDigits_eq_foldr, List.map_reverse, List.foldr_reverse,
    Decimal.digitsValue]
  congr 1
  funext n d
  simp only [Nat.cast_id]
  omega

/-- A literal is read in base ten unless it has too many digits. -/
theorem readInteger_literal (l : Literal) :
    Decimal.readInteger 10 (String.ofList l.digits) =
      if l.IsReadable then .ok l.value else .error (.tooManyDigits l.digits.length) := by
  obtain ⟨c, rest, hcons⟩ := List.exists_cons_of_ne_nil l.nonempty
  have hc : Text.isAsciiDigit c = true := l.ascii c (by simp [hcons])
  have hascii : l.digits.map Decimal.toAscii = l.digits :=
    (List.map_congr_left fun d hd => toAscii_of_isAsciiDigit (l.ascii d hd)).trans (List.map_id' _)
  have hspace : l.digits.dropWhile Decimal.isSpace = l.digits := by
    rw [hcons, List.dropWhile_cons_of_neg]
    simp [isSpace_of_isAsciiDigit hc]
  have hsign : Decimal.takeSign l.digits = (false, l.digits) := by
    rw [hcons, takeSign_of_isAsciiDigit hc]
  have hpart : ∀ d ∈ l.digits, ((Decimal.digitOf? 10 d).isSome || d = '_') = true := by
    intro d hd
    simp [digitOf?_of_isAsciiDigit (l.ascii d hd)]
  have htake := List.takeWhile_eq_self_iff.mpr hpart
  have hdrop := List.dropWhile_eq_nil_iff.mpr hpart
  have hdigits : l.digits.filterMap (Decimal.digitOf? 10) =
      l.digits.map fun c => c.toNat - '0'.toNat := by
    rw [← List.filterMap_eq_map']
    exact List.filterMap_congr fun d hd => digitOf?_of_isAsciiDigit (l.ascii d hd)
  simp only [Decimal.readInteger, Decimal.readIntegerFrom, String.toList_ofList,
    Decimal.asciiText_codePoints, hascii, hspace, hsign, skipBaseMark_ten, htake, hdrop, hdigits,
    wellSpaced_of_isAsciiDigit l.ascii, digitsValue_literal]
  by_cases h : l.IsReadable
  · have hlimit : ¬Decimal.digitLimit < l.digits.length := Nat.not_lt.mpr h
    simp [h, hlimit, l.nonempty]
  · have hlimit : Decimal.digitLimit < l.digits.length := Nat.not_le.mp h
    simp [h, hlimit]

theorem readText_literal (l : Literal) :
    readText (String.ofList l.digits) =
      if l.IsReadable then .ok l.number
      else .error (.unreadable (.tooManyDigits l.digits.length)) := by
  rw [readText, readInteger_literal]
  by_cases h : l.IsReadable
  · rw [if_pos h, if_pos h]
    rfl
  · rw [if_neg h, if_neg h]

/-! ### Lexemes of a text -/

def lexemeText (L : List (Lexeme Literal)) : List Char :=
  L.flatMap (Lexeme.spell id Literal.digits)

@[simp] theorem lexemeText_nil : lexemeText [] = [] := rfl

@[simp] theorem lexemeText_append (L M : List (Lexeme Literal)) :
    lexemeText (L ++ M) = lexemeText L ++ lexemeText M := List.flatMap_append

@[simp] theorem lexemeText_sign (c : Char) (L : List (Lexeme Literal)) :
    lexemeText (.sign c :: L) = c :: lexemeText L := rfl

/-- Every text consists of signs and runs of digits. -/
theorem exists_lexemes (cs : List Char) :
    ∃ L, lexemeText L = cs ∧ Separated IsNoDigit L := by
  induction cs with
  | nil => exact ⟨[], rfl, .nil⟩
  | cons c cs ih =>
    obtain ⟨L, rfl, hL⟩ := ih
    by_cases hc : Text.isAsciiDigit c = true
    · cases hL with
      | nil => exact ⟨[.atom (.ofDigit c hc)], rfl, .atom _⟩
      | @sign d L hd hL => exact ⟨.atom (.ofDigit c hc) :: .sign d :: L, rfl, .atom_sign _ hd hL⟩
      | atom a =>
        refine ⟨[.atom ⟨c :: a.digits, List.cons_ne_nil _ _, ?_⟩], rfl, .atom _⟩
        intro d hd
        rcases List.mem_cons.mp hd with rfl | hd
        · exact hc
        · exact a.ascii d hd
      | @atom_sign a d L hd hL =>
        refine ⟨.atom ⟨c :: a.digits, List.cons_ne_nil _ _, ?_⟩ :: .sign d :: L, rfl,
          .atom_sign _ hd hL⟩
        intro d hd
        rcases List.mem_cons.mp hd with rfl | hd
        · exact hc
        · exact a.ascii d hd
    · have hc : IsNoDigit c := by simpa [IsNoDigit] using hc
      exact ⟨.sign c :: L, rfl, .sign hc hL⟩

def Lexeme.readToken (x : Lexeme Literal) : Token := (x.map Literal.number).token

theorem readToken_isChar {x : Lexeme Literal} {c : Char} (h : x.readToken.isChar c = true) :
    x = .sign c := by
  cases x with
  | sign d =>
    obtain ⟨p, hp⟩ := Token.isChar_iff.mp h
    obtain ⟨rfl, -⟩ := Token.char.inj hp
    rfl
  | atom a => cases h

theorem map_sign_lexemeText (L : List (Lexeme Literal)) :
    (lexemeText L).map Token.sign =
      L.flatMap (Lexeme.spell Token.sign fun a => a.digits.map Token.sign) := by
  rw [lexemeText, List.map_flatMap]
  congr 1
  funext x
  cases x <;> rfl

/-- Literals that are not too long are read. -/
theorem readNumbers_lexemeText {L : List (Lexeme Literal)} (hL : Separated IsNoDigit L)
    (hr : ∀ a, .atom a ∈ L → a.IsReadable) :
    readNumbers ((lexemeText L).map Token.sign) = .ok (L.map Lexeme.readToken) := by
  rw [map_sign_lexemeText, readNumbers_lexemes hL fun a _ => standFor_digits a.nonempty a.ascii]
  clear hL
  induction L with
  | nil => rfl
  | cons x L ih =>
    have hx : x.read (fun a => readText (String.ofList a.digits)) = .ok x.readToken := by
      cases x with
      | sign c => rfl
      | atom a =>
        rw [Lexeme.read, readText_literal, if_pos (hr a (by simp))]
        rfl
    rw [List.mapM_cons, hx, ih fun a ha => hr a (List.mem_cons_of_mem x ha)]
    rfl

/-- Only literals that are not too long are read. -/
theorem isReadable_of_readNumbers {L : List (Lexeme Literal)} (hL : Separated IsNoDigit L)
    {numbers : List Token} (h : readNumbers ((lexemeText L).map Token.sign) = .ok numbers) :
    ∀ a, .atom a ∈ L → a.IsReadable := by
  rw [map_sign_lexemeText, readNumbers_lexemes hL fun a _ => standFor_digits a.nonempty a.ascii]
    at h
  clear hL
  induction L generalizing numbers with
  | nil => simp
  | cons x L ih =>
    rw [List.mapM_cons] at h
    obtain ⟨t, hx, h⟩ := Except.bind_eq_ok_iff.mp h
    obtain ⟨rest, hrest, -⟩ := Except.bind_eq_ok_iff.mp h
    intro a ha
    rcases List.mem_cons.mp ha with rfl | ha
    · by_contra hlong
      rw [Lexeme.read, readText_literal, if_neg hlong] at hx
      cases hx
    · exact ih hrest a ha

end Calculator
