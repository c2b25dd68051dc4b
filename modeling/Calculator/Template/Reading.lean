import Calculator.Template.Tag

/-! From text to template.  A tag other than a variable that stands on a line of its own takes the
whole line with it.  Sections nest; the template is what has been read since the innermost section
that is still open at the end. -/

namespace Calculator.Template

/-- A section that is open: its kind and key, and the parts read before it, the last one first. -/
structure OpenSection where
  inverse : Bool
  key : List Char
  before : List Part

/-- What is left of the text after a line end at its front. -/
def dropLineEnd : List Char → List Char
  | '\r' :: '\n' :: rest => rest
  | '\r' :: rest => rest
  | '\n' :: rest => rest
  | s => s

theorem length_dropLineEnd_le (s : List Char) : (dropLineEnd s).length ≤ s.length := by
  unfold dropLineEnd
  split <;> simp
  omega

/-- The two delimiters that a text of blank-separated words names. -/
def Delimiters.ofText? (s : List Char) : Option Delimiters :=
  match (s.splitBy fun a b => Text.isBlank a == Text.isBlank b).filter
      (fun word => !word.any Text.isBlank) with
  | opening :: closing :: _ => some ⟨opening, closing⟩
  | _ => none

/-- A text part, unless it is empty. -/
def addText (text : List Char) (parts : List Part) : List Part :=
  if text = [] then parts else .text text :: parts

/-- Reads a text of which `length - s.length` characters have been read.  `parts` are the parts
since the innermost open section, the last one first. -/
def readParts (length : Nat) (d : Delimiters) (startsLine : Bool) (opened : List OpenSection)
    (parts : List Part) (s : List Char) : Except Fault (List Part) :=
  match h : firstTag? d startsLine s with
  | none => .ok (addText s parts).reverse
  | some f =>
      let alone := f.startsLine && !f.tag.kind.isInline &&
        (match f.after with | [] => true | c :: _ => isLineEnd c)
      let rest := if alone then dropLineEnd f.after else f.after
      have : rest.length < s.length := by
        have h1 := length_firstTag?_lt h
        have h2 := length_dropLineEnd_le f.after
        simp only [rest]
        split <;> omega
      let parts := addText (if alone then f.before else f.before ++ f.spaces) parts
      let next := alone && !f.after.isEmpty
      match f.tag.kind with
      | .variable => readParts length d next opened (.variable f.tag.key :: parts) rest
      | .comment => readParts length d next opened parts rest
      | .include => readParts length d next opened parts rest
      | .delimiters =>
          match Delimiters.ofText? f.tag.key with
          | some d => readParts length d next opened parts rest
          | none => .error .delimiters
      | .open => readParts length d next (⟨false, f.tag.key, parts⟩ :: opened) [] rest
      | .openInverse => readParts length d next (⟨true, f.tag.key, parts⟩ :: opened) [] rest
      | .close =>
          match opened with
          | [] => .error (.sectionEnd (length - rest.length) f.tag.key none)
          | o :: outer =>
              if f.tag.key = o.key then
                let inner := parts.reverse
                let part := if o.inverse then .inverse o.key inner else .block o.key inner
                readParts length d next outer (part :: o.before) rest
              else .error (.sectionEnd (length - rest.length) f.tag.key (some o.key))
termination_by s.length
decreasing_by all_goals assumption

def read (s : List Char) : Except Fault (List Part) :=
  readParts s.length .standard true [] [] s

end Calculator.Template
