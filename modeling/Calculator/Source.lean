import Calculator.Token
import Calculator.Text.Blank

/-! The tokens of a source text: every character that is not blank, at its offset. -/

namespace Calculator

/-- The tokens of a text that starts at an offset of a longer one. -/
def tokensFrom (offset : Nat) : List Char → List Token
  | [] => []
  | c :: rest =>
      if Text.isBlank c then tokensFrom (offset + 1) rest
      else .char c (some offset) :: tokensFrom (offset + 1) rest

def tokenize (source : String) : List Token := tokensFrom 0 source.toList

/-- The characters of the tokens are the characters of the text that are not blank. -/
theorem map_text_tokensFrom (offset : Nat) (s : List Char) :
    (tokensFrom offset s).map Token.text =
      (s.filter fun c => !Text.isBlank c).map String.singleton := by
  induction s generalizing offset with
  | nil => rfl
  | cons c rest ih =>
    simp only [tokensFrom]
    split <;> simp_all [Token.text]

/-- Each token of a text stands at its offset in it. -/
theorem exists_of_mem_tokensFrom {offset : Nat} {s : List Char} {t : Token}
    (h : t ∈ tokensFrom offset s) :
    ∃ i c, s[i]? = some c ∧ t = .char c (some ((offset + i : Nat) : Int)) := by
  induction s generalizing offset with
  | nil => simp [tokensFrom] at h
  | cons c rest ih =>
    simp only [tokensFrom] at h
    split at h
    · obtain ⟨i, d, hi, rfl⟩ := ih h
      exact ⟨i + 1, d, by simpa using hi, by simp; omega⟩
    · rcases List.mem_cons.mp h with rfl | h
      · exact ⟨0, c, by simp, by simp⟩
      · obtain ⟨i, d, hi, rfl⟩ := ih h
        exact ⟨i + 1, d, by simpa using hi, by simp; omega⟩

end Calculator
