import Calculator.Yaml.PlainScalar

/-! Quoted scalars.  Between single quotes, a quote is written twice; between double quotes, a
backslash starts an escape.  Line ends count as spaces, and spaces around them do not count. -/

namespace Calculator.Yaml

/-- The characters that stand for others behind a backslash. -/
def escapes : List (Char × Char) :=
  [('0', '\x00'), ('a', '\x07'), ('b', '\x08'), ('t', '\t'), ('\t', '\t'), ('n', '\n'),
   ('v', '\x0b'), ('f', '\x0c'), ('r', '\r'), ('e', '\x1b'), (' ', ' '), ('\x22', '\x22'),
   ('\\', '\\'), ('/', '/'), ('N', '\x85'), ('_', '\xa0'), ('L', '\u2028'), ('P', '\u2029')]

/-- How many digits of a code point follow a letter behind a backslash. -/
def codeLength : Char → Option Nat
  | 'x' => some 2
  | 'u' => some 4
  | 'U' => some 8
  | _ => none

/-- The empty lines after a line end.  A document must not end in a quoted scalar. -/
def quotedBreaks : Nat → Cursor → List Char → Except Fault (List Char × Cursor)
  | 0, _, _ => .error .invalid
  | fuel + 1, c, breaks =>
      if c.isSeparator then .error .invalid
      else
        let c := c.skipWhile fun ch => ch = ' ' || ch = '\t'
        match c.lineBreak? with
        | none => .ok (breaks.reverse, c)
        | some (b, c) => quotedBreaks fuel c (b :: breaks)

/-- Spaces, tabs and line ends inside a quoted scalar: the text that they count as. -/
def quotedGap (c : Cursor) : Except Fault (List Char × Cursor) :=
  let (spaces, c) := c.takeWhile fun ch => ch = ' ' || ch = '\t'
  match c.next, c.lineBreak? with
  | none, _ => .error .invalid
  | some _, none => .ok (spaces, c)
  | some _, some (first, c) => do
      let (breaks, c) ← quotedBreaks (c.size + 1) c []
      pure (foldBreaks first breaks, c)

/-- What follows a backslash: the text that the escape stands for. -/
def escape (c : Cursor) : Except Fault (List Text.CodePoint × Cursor) :=
  match c.next with
  | none => .error .invalid
  | some ch =>
      match escapes.lookup ch, codeLength ch with
      | some d, _ => .ok ([.char d], c.step)
      | none, some n =>
          let digits := c.step.rest.take n
          if digits.length = n ∧ digits.all isHexDigit then
            let code := hexValue digits
            if code < 0x110000 then .ok ([.ofNat code], c.step.skip n)
            else .error (.value (.noSuchCharacter code))
          else .error .invalid
      | none, none =>
          match c.lineBreak? with
          | some (_, c) => do
              let (breaks, c) ← quotedBreaks (c.size + 1) c []
              pure (Text.codePoints breaks, c)
          | none => .error .invalid

/-- A quoted scalar behind its opening quote, with `text` read so far, the last code point first. -/
def quotedFrom (quote : Char) :
    Nat → Cursor → List Text.CodePoint → Except Fault (List Text.CodePoint × Cursor)
  | 0, _, _ => .error .invalid
  | fuel + 1, c, text =>
      match c.next with
      | none => .error .invalid
      | some ch =>
          if ch = quote then
            if quote = '\x27' ∧ c.ahead 1 = some '\x27' then
              quotedFrom quote fuel (c.skip 2) (.char '\x27' :: text)
            else .ok (text.reverse, c.step)
          else if ch = '\\' ∧ quote = '\x22' then do
            let (more, c) ← escape c.step
            quotedFrom quote fuel c (more.reverse ++ text)
          else if endsWord (some ch) then do
            let (more, c) ← quotedGap c
            quotedFrom quote fuel c ((Text.codePoints more).reverse ++ text)
          else quotedFrom quote fuel c.step (.char ch :: text)

/-- Reads a quoted scalar that starts here: its text and the place behind it. -/
def quotedScalar (quote : Char) (c : Cursor) : Except Fault (List Text.CodePoint × Cursor) :=
  quotedFrom quote (c.size + 1) c.step []

end Calculator.Yaml
