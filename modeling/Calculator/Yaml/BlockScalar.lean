import Calculator.Yaml.Cursor

/-! Block scalars: texts of whole lines.  A literal one keeps its line ends; a folded one turns a
line end between two lines that do not start with a blank into a space.  The header may say how far
the text is indented and what becomes of the line ends after it: one is kept, or none, or all. -/

namespace Calculator.Yaml

/-- What becomes of the line ends after the last line. -/
inductive Chomping where
  | clip
  | strip
  | keep
  deriving DecidableEq, Repr

def Chomping.ofSign? : Option Char → Option Chomping
  | some '+' => some .keep
  | some '-' => some .strip
  | _ => none

def indentDigit? : Option Char → Option Nat
  | some c => if c.isDigit then some (c.toNat - 48) else none
  | none => none

/-- The header of a block scalar behind its sign: the chomping and the indentation, in either
order. -/
def blockHeader (c : Cursor) : Except Fault (Chomping × Option Nat × Cursor) := do
  let (chomping, indent, c) :=
    match Chomping.ofSign? c.next, indentDigit? c.next with
    | some chomping, _ =>
        let c := c.step
        match indentDigit? c.next with
        | some n => (chomping, some n, c.step)
        | none => (chomping, none, c)
    | none, some n =>
        let c := c.step
        match Chomping.ofSign? c.next with
        | some chomping => (chomping, some n, c.step)
        | none => (.clip, some n, c)
    | none, none => (.clip, none, c)
  if indent = some 0 ∨ !endsToken c.next then throw .invalid
  pure (chomping, indent, ← c.finishLine)

/-- The empty lines at the front of a block scalar, and the widest indentation among them and the
line after them. -/
def leadingBreaks : Nat → Cursor → List Char → Nat → List Char × Nat × Cursor
  | 0, c, breaks, widest => (breaks.reverse, widest, c)
  | fuel + 1, c, breaks, widest =>
      if c.next = some ' ' then
        let c := c.step
        leadingBreaks fuel c breaks (max widest c.column)
      else
        match c.lineBreak? with
        | some (b, c) => leadingBreaks fuel c (b :: breaks) widest
        | none => (breaks.reverse, widest, c)

/-- Skips the indentation of a line, as far as it goes. -/
def skipIndent (indent : Nat) (c : Cursor) : Cursor :=
  c.skip ((c.rest.take (indent - c.column)).takeWhile (· = ' ')).length

/-- The empty lines before the next line of a block scalar. -/
def blockBreaks (indent : Nat) : Nat → Cursor → List Char → List Char × Cursor
  | 0, c, breaks => (breaks.reverse, c)
  | fuel + 1, c, breaks =>
      let c := skipIndent indent c
      match c.lineBreak? with
      | some (b, c) => blockBreaks indent fuel c (b :: breaks)
      | none => (breaks.reverse, c)

def startsWithBlank (c : Cursor) : Bool := c.next = some ' ' || c.next = some '\t'

/-- The lines of a block scalar, with `text` read so far, the last character first, and `breaks`
before the next line. -/
def blockLines (folded : Bool) (chomping : Chomping) (indent : Nat) :
    Nat → Cursor → List Char → List Char → List Char × Cursor
  | 0, c, text, _ => (text, c)
  | fuel + 1, c, text, breaks =>
      let solid := !startsWithBlank c
      let (line, c) := c.takeWhile fun ch => !isBreak ch
      let text := line.reverse ++ breaks.reverse ++ text
      let (ending, c) :=
        match c.lineBreak? with
        | some (b, c) => ([b], c)
        | none => ([], c)
      let (breaks, c) := blockBreaks indent (c.size + 1) c []
      if c.column = indent ∧ c.next ≠ none then
        let joint :=
          if folded ∧ ending = ['\n'] ∧ solid ∧ !startsWithBlank c then
            if breaks = [] then [' '] else []
          else ending
        blockLines folded chomping indent fuel c (joint ++ text) breaks
      else
        match chomping with
        | .strip => (text, c)
        | .clip => (ending ++ text, c)
        | .keep => (breaks.reverse ++ ending ++ text, c)

/-- Reads a block scalar behind its sign, inside a collection that is indented by `outer`. -/
def blockScalar (folded : Bool) (outer : Int) (c : Cursor) : Except Fault (List Char × Cursor) := do
  let (chomping, increment, c) ← blockHeader c
  let least := max (outer + 1) 1
  let (breaks, indent, c) :=
    match increment with
    | some n =>
        let indent := (least + n - 1).toNat
        let (breaks, c) := blockBreaks indent (c.size + 1) c []
        (breaks, indent, c)
    | none =>
        let (breaks, widest, c) := leadingBreaks (c.size + 1) c [] 0
        (breaks, max least.toNat widest, c)
  if c.column = indent ∧ c.next ≠ none then
    let (text, c) := blockLines folded chomping indent (c.size + 1) c [] breaks
    pure (text.reverse, c)
  else pure (if chomping = .keep then breaks else [], c)

end Calculator.Yaml
