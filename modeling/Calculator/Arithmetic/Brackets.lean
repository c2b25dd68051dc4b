import Calculator.Pass

/-! Groups.  A closing parenthesis ends the group that starts behind the nearest opening one before
it.  The pipeline is run on the group, and what comes out takes the place of the group and its two
parentheses; so inner groups are run before the ones around them. -/

namespace Calculator

/-- The tokens on an output, the last token first, down to the nearest opening parenthesis, and the
tokens below it. -/
def openGroup? : List Token → Option (List Token × List Token)
  | [] => none
  | t :: output =>
      if t.isChar '(' then some ([], output)
      else (openGroup? output).map fun (group, below) => (t :: group, below)

/-- Runs the groups of some tokens, with the output so far, the last token first. -/
def groupPlan : List Token → List Token → Plan
  | output, [] => .done output.reverse
  | output, t :: tokens =>
      if t.isChar ')' then
        match openGroup? output with
        | none => .fail (.at .unmatchedClose t)
        | some (group, below) =>
            .run group.reverse fun result => groupPlan (result.reverse ++ below) tokens
      else groupPlan (t :: output) tokens

namespace Pass

def brackets : Pass where
  name := "brackets"
  body := .nested (groupPlan [])

end Pass

/-- The group found lies on top of an opening parenthesis and holds none itself. -/
theorem openGroup?_eq_some {output group below : List Token}
    (h : openGroup? output = some (group, below)) :
    ∃ t : Token, t.isChar '(' = true ∧ output = group ++ t :: below ∧
      ∀ u ∈ group, u.isChar '(' = false := by
  induction output generalizing group with
  | nil => simp [openGroup?] at h
  | cons t output ih =>
    simp only [openGroup?] at h
    split at h
    · rename_i ht
      simp only [Option.some.injEq, Prod.mk.injEq] at h
      obtain ⟨rfl, rfl⟩ := h
      exact ⟨t, ht, rfl, by simp⟩
    · rename_i ht
      simp only [Option.map_eq_some_iff, Prod.mk.injEq, Prod.exists] at h
      obtain ⟨g, b, hg, rfl, rfl⟩ := h
      obtain ⟨u, hu, rfl, hall⟩ := ih hg
      exact ⟨u, hu, rfl, by simpa [ht] using hall⟩

/-- A group is missing exactly when nothing below is an opening parenthesis. -/
theorem openGroup?_eq_none_iff {output : List Token} :
    openGroup? output = none ↔ ∀ t ∈ output, t.isChar '(' = false := by
  induction output with
  | nil => simp [openGroup?]
  | cons t output ih =>
    simp only [openGroup?]
    split <;> simp_all

end Calculator
