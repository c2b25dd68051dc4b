/-! Code points.  Most belong to a character; surrogates belong to none, and a text that holds one
is no text of characters. -/

namespace Calculator.Text

inductive CodePoint where
  | char (c : Char)
  | surrogate (n : Nat)
  deriving DecidableEq, Repr

namespace CodePoint

def ofNat (n : Nat) : CodePoint :=
  if 0xd800 ≤ n ∧ n < 0xe000 then .surrogate n else .char (Char.ofNat n)

def toNat : CodePoint → Nat
  | .char c => c.toNat
  | .surrogate n => n

/-- The character of a code point that has one. -/
def char? : CodePoint → Option Char
  | .char c => some c
  | .surrogate _ => none

end CodePoint

/-- A text that may hold surrogates. -/
abbrev Points : Type := List CodePoint

def codePoints (s : List Char) : Points := s.map .char

def points (s : String) : Points := codePoints s.toList

/-- The characters of a text without surrogates. -/
def characters? (s : Points) : Option (List Char) := s.mapM CodePoint.char?

@[simp] theorem characters?_codePoints (s : List Char) : characters? (codePoints s) = some s := by
  induction s with
  | nil => rfl
  | cons c rest ih =>
    have h : codePoints (c :: rest) = .char c :: codePoints rest := rfl
    simp only [characters?] at ih
    simp [characters?, h, ih, CodePoint.char?]

theorem points_injective {s t : String} (h : points s = points t) : s = t := by
  have hchars := congrArg characters? h
  rw [points, points, characters?_codePoints, characters?_codePoints] at hchars
  exact String.toList_inj.mp (Option.some.inj hchars)

@[simp] theorem points_inj {s t : String} : points s = points t ↔ s = t :=
  ⟨points_injective, congrArg points⟩

end Calculator.Text
