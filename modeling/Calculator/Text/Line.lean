import Calculator.Text.Blank

/-! Lines of a text.  Reading turns the line ends of all systems into newlines; a file is then cut
at every line boundary, and the input of a session at newlines only. -/

namespace Calculator.Text

/-- Whether a line ends at `c`: at a newline, a carriage return, a vertical tab, a form feed, one of
three information separators, the next-line control, or a line or paragraph separator. -/
def isLineBoundary (c : Char) : Bool :=
  inRanges [(10, 13), (28, 30), (133, 133), (8232, 8233)] c.toNat

/-- The text with every carriage return, alone or before a newline, as a newline. -/
def unifyNewlines : List Char → List Char
  | [] => []
  | '\r' :: '\n' :: rest => '\n' :: unifyNewlines rest
  | '\r' :: rest => '\n' :: unifyNewlines rest
  | c :: rest => c :: unifyNewlines rest

/-- The lines of a text that `ends` cuts, without the characters that end them.  A carriage return
takes a newline after it along, and nothing follows the last line end. -/
def cutLines (ends : Char → Bool) : List Char → List Char → List (List Char)
  | [], [] => []
  | line, [] => [line.reverse]
  | line, '\r' :: '\n' :: rest =>
      if ends '\r' then line.reverse :: cutLines ends [] rest
      else if ends '\n' then ('\r' :: line).reverse :: cutLines ends [] rest
      else cutLines ends ('\n' :: '\r' :: line) rest
  | line, c :: rest =>
      if ends c then line.reverse :: cutLines ends [] rest else cutLines ends (c :: line) rest

def lines (s : List Char) : List (List Char) := cutLines isLineBoundary [] s

/-- The lines that a session reads one after the other. -/
def inputLines (s : List Char) : List (List Char) := cutLines (· = '\n') [] s

theorem unifyNewlines_eq_self {s : List Char} (h : '\r' ∉ s) : unifyNewlines s = s := by
  fun_induction unifyNewlines s with
  | case1 => rfl
  | case2 => simp at h
  | case3 => simp at h
  | case4 c rest _ _ ih => simp_all

/-- A text in which no line ends is one line. -/
theorem cutLines_whole {ends : Char → Bool} {line text : List Char}
    (h : ∀ c ∈ text, ends c = false) (hne : line.reverse ++ text ≠ []) :
    cutLines ends line text = [line.reverse ++ text] := by
  fun_induction cutLines ends line text with
  | case1 => exact absurd rfl hne
  | case2 line hline => rw [List.append_nil]
  | case3 line rest hr => simp [h] at hr
  | case4 line rest hr hn => simp [h] at hn
  | case5 line rest hr hn ih =>
    rw [ih (fun c hc => h c (by simp [hc])) (by simp)]
    simp
  | case6 line c rest hpair hc => simp [h] at hc
  | case7 line c rest hpair hc ih =>
    rw [ih (fun c hc => h c (by simp [hc])) (by simp)]
    simp

/-- Texts are cut alike where the same characters end a line. -/
theorem cutLines_congr {ends ends' : Char → Bool} {line text : List Char}
    (h : ∀ c ∈ text, ends c = ends' c) : cutLines ends line text = cutLines ends' line text := by
  fun_induction cutLines ends line text with
  | case1 => rw [cutLines]
  | case2 line hline =>
    rw [cutLines]
    exact hline
  | case3 line rest hr ih =>
    rw [h _ (by simp)] at hr
    rw [cutLines, if_pos hr, ih fun c hc => h c (by simp [hc])]
  | case4 line rest hr hn ih =>
    rw [h _ (by simp)] at hr hn
    rw [cutLines, if_neg hr, if_pos hn, ih fun c hc => h c (by simp [hc])]
  | case5 line rest hr hn ih =>
    rw [h _ (by simp)] at hr hn
    rw [cutLines, if_neg hr, if_neg hn, ih fun c hc => h c (by simp [hc])]
  | case6 line c rest hpair hc ih =>
    rw [h _ (by simp)] at hc
    rw [cutLines, if_pos hc, ih fun c hc => h c (by simp [hc])]
    exact hpair
  | case7 line c rest hpair hc ih =>
    rw [h _ (by simp)] at hc
    rw [cutLines, if_neg hc, ih fun c hc => h c (by simp [hc])]
    exact hpair

/-- A text with no line boundary but newlines is cut into the lines that a session reads. -/
theorem lines_eq_inputLines {text : List Char}
    (h : ∀ c ∈ text, isLineBoundary c = true → c = '\n') : lines text = inputLines text := by
  refine cutLines_congr fun c hc => ?_
  by_cases hnewline : c = '\n'
  · subst hnewline
    rfl
  · rw [decide_eq_false hnewline, ← Bool.not_eq_true]
    exact fun hboundary => hnewline (h c hc hboundary)

end Calculator.Text
