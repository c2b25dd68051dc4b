import Calculator.Yaml.Cursor

/-! Plain scalars: texts without quotes.  They end before a comment, a colon that ends a word, or,
inside brackets, one of the characters that have a meaning there; they may go on in lines that are
indented further than what surrounds them, and line ends in them count as spaces. -/

namespace Calculator.Yaml

/-- Whether a plain scalar goes on with the first of some characters. -/
def isPlainChar (inFlow : Bool) : List Char → Bool
  | [] => false
  | c :: rest =>
      !(endsWord (some c)
        || (c = ':' && (endsWord rest.head? ||
            inFlow && rest.head?.any (fun d => [',', '[', ']', '\x7b', '\x7d'].contains d)))
        || (inFlow && [',', '?', '[', ']', '\x7b', '\x7d'].contains c))

/-- The run of characters of a plain scalar at the front of a text. -/
def plainRun (inFlow : Bool) : List Char → List Char
  | [] => []
  | c :: rest => if isPlainChar inFlow (c :: rest) then c :: plainRun inFlow rest else []

/-- What lies between two runs of a plain scalar: the text that it counts as, the place behind it,
and whether a line ended in it.  Nothing goes on behind a mark between documents. -/
structure Gap where
  text : Option (List Char)
  after : Cursor
  brokeLine : Bool

/-- The empty lines and the indentation after a line end.  A mark between documents ends them. -/
def plainBreaks : Nat → Cursor → List Char → Option (List Char) × Cursor
  | 0, c, breaks => (some breaks.reverse, c)
  | fuel + 1, c, breaks =>
      if c.next = some ' ' then plainBreaks fuel c.step breaks
      else
        match c.lineBreak? with
        | none => (some breaks.reverse, c)
        | some (b, c) =>
            if c.isSeparator then (none, c) else plainBreaks fuel c (b :: breaks)

/-- The text that a line end and the empty lines after it count as. -/
def foldBreaks (first : Char) (breaks : List Char) : List Char :=
  if first ≠ '\n' then first :: breaks
  else if breaks = [] then [' ']
  else breaks

def plainGap (c : Cursor) : Gap :=
  let (spaces, c) := c.takeWhile (· = ' ')
  match c.lineBreak? with
  | none => ⟨some spaces, c, false⟩
  | some (first, c) =>
      if c.isSeparator then ⟨none, c, true⟩
      else
        let (breaks, c) := plainBreaks c.size c []
        ⟨breaks.map (foldBreaks first), c, true⟩

/-- A plain scalar from here on, after `text`, with `gap` before the next run; both have their last
character first. -/
def plainFrom (inFlow : Bool) (indent : Int) :
    Nat → Cursor → List Char → List Char → Bool → List Char × Cursor × Bool
  | 0, c, text, _, brokeLine => (text, c, brokeLine)
  | fuel + 1, c, text, gap, brokeLine =>
      let run := if c.next = some '#' then [] else plainRun inFlow c.rest
      if run = [] then (text, c, brokeLine)
      else
        let text := run.reverse ++ gap ++ text
        let g := plainGap (c.skip run.length)
        match g.text with
        | none => (text, g.after, g.brokeLine)
        | some gap =>
            if gap = [] ∨ g.after.next = some '#' ∨ (!inFlow ∧ (g.after.column : Int) < indent) then
              (text, g.after, g.brokeLine)
            else plainFrom inFlow indent fuel g.after text gap.reverse g.brokeLine

/-- Reads a plain scalar: its text, the place behind it, and whether a line ended since its last
character. -/
def plainScalar (inFlow : Bool) (indent : Int) (c : Cursor) : List Char × Cursor × Bool :=
  let (text, c, brokeLine) := plainFrom inFlow indent (c.size + 1) c [] [] false
  (text.reverse, c, brokeLine)

end Calculator.Yaml
