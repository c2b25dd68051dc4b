/-! Sets of characters given as ascending tables of intervals of code points, both ends included. -/

namespace Calculator.Text

/-- Whether `n` lies in one of the intervals of an ascending table.  The search ends at the first
interval that starts after `n`. -/
def inRanges : List (Nat × Nat) → Nat → Bool
  | [], _ => false
  | (first, last) :: rest, n =>
      if n < first then false else if n ≤ last then true else inRanges rest n

theorem inRanges_head {first last n : Nat} {rest : List (Nat × Nat)} (h : first ≤ n)
    (h' : n ≤ last) :
    inRanges ((first, last) :: rest) n = true := by
  simp [inRanges, h', Nat.not_lt.mpr h]

theorem inRanges_eq_false_of_lt {first last n : Nat} {rest : List (Nat × Nat)} (h : n < first) :
    inRanges ((first, last) :: rest) n = false := by
  simp [inRanges, h]

/-- A number found in the table lies between the ends of one of its intervals. -/
theorem exists_mem_of_inRanges {table : List (Nat × Nat)} {n : Nat} (h : inRanges table n = true) :
    ∃ r ∈ table, r.1 ≤ n ∧ n ≤ r.2 := by
  induction table with
  | nil => simp [inRanges] at h
  | cons r rest ih =>
    obtain ⟨first, last⟩ := r
    simp only [inRanges] at h
    split at h
    · simp at h
    · split at h
      · exact ⟨(first, last), by simp, by simp; omega⟩
      · obtain ⟨r, hr, hn⟩ := ih h
        exact ⟨r, by simp [hr], hn⟩

end Calculator.Text
