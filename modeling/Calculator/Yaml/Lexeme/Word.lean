import Calculator.Yaml.Cursor
import Calculator.Yaml.Lexeme

/-! Names, tags and directives of a document. -/

namespace Calculator.Yaml

/-- Reads the characters of a name, of which there must be one. -/
def word (c : Cursor) : Except Fault (List Char × Cursor) :=
  let (name, c) := c.takeWhile isWordChar
  if name = [] then .error .invalid else .ok (name, c)

def tagBytes : Nat → Cursor → List UInt8 → Except Fault (List UInt8 × Cursor)
  | 0, c, bytes => .ok (bytes.reverse, c)
  | fuel + 1, c, bytes =>
      if c.next = some '%' then
        let digits := c.step.rest.take 2
        if digits.length = 2 ∧ digits.all isHexDigit then
          tagBytes fuel (c.skip 3) (UInt8.ofNat (hexValue digits) :: bytes)
        else .error .invalid
      else .ok (bytes.reverse, c)

def isTagChar (c : Char) : Bool :=
  isWordChar c
    || [';', '/', '?', ':', '@', '&', '=', '+', '$', ',', '_', '.', '!', '~', '*', '\x27', '(', ')',
        '[', ']', '%'].contains c

/-- Reads the characters of a tag, with `text` read so far, the last one first. -/
def tagTextFrom : Nat → Cursor → List Char → Except Fault (List Char × Cursor)
  | 0, c, text => .ok (text.reverse, c)
  | fuel + 1, c, text =>
      match c.next with
      | none => .ok (text.reverse, c)
      | some ch =>
          if !isTagChar ch then .ok (text.reverse, c)
          else if ch = '%' then do
            let (bytes, c) ← tagBytes c.size c []
            match Text.Utf8.decode bytes with
            | .ok more => tagTextFrom fuel c (more.reverse ++ text)
            | .error _ => throw .invalid
          else tagTextFrom fuel c.step (ch :: text)

def tagText (c : Cursor) : Except Fault (List Char × Cursor) :=
  match c.next with
  | some ch => if isTagChar ch then tagTextFrom (c.size + 1) c [] else .error .invalid
  | none => .error .invalid

/-- Reads the handle of a tag: an exclamation mark, or a name between two. -/
def tagHandle (c : Cursor) : Except Fault (List Char × Cursor) :=
  if c.next ≠ some '!' then .error .invalid
  else if c.ahead 1 = some ' ' then .ok (['!'], c.step)
  else
    let (name, after) := c.step.takeWhile isWordChar
    if after.next = some '!' then .ok ('!' :: name ++ ['!'], after.step) else .error .invalid

def writtenTag (c : Cursor) : Except Fault (WrittenTag × Cursor) := do
  let (t, c) ←
    if c.ahead 1 = some '<' then do
      let (suffix, c) ← tagText (c.skip 2)
      if c.next = some '>' then pure ((⟨none, suffix⟩ : WrittenTag), c.step) else throw .invalid
    else if endsWord (c.ahead 1) then pure (⟨none, ['!']⟩, c.step)
    else if (c.step.rest.takeWhile fun ch => !endsToken (some ch)).contains '!' then do
      let (handle, c) ← tagHandle c
      let (suffix, c) ← tagText c
      pure (⟨some handle, suffix⟩, c)
    else do
      let (suffix, c) ← tagText c.step
      pure (⟨some ['!'], suffix⟩, c)
  if endsToken c.next then pure (t, c) else throw .invalid

def versionNumber (c : Cursor) : Except Fault (Nat × Cursor) :=
  let (digits, c) := c.takeWhile Char.isDigit
  if digits = [] then .error .invalid
  else
    match Decimal.readInteger 10 (String.ofList digits) with
    | .ok n => .ok (n.toNat, c)
    | .error f => .error (.value (.unreadable f))

def directive (c : Cursor) : Except Fault (Lexeme × Cursor) := do
  let (name, c) ← word c.step
  if !endsToken c.next then throw .invalid
  let (l, c) ←
    if name = "YAML".toList then do
      let (major, c) ← versionNumber c.skipSpaces
      if c.next ≠ some '.' then throw .invalid
      let (_, c) ← versionNumber c.step
      if !endsToken c.next then throw .invalid
      pure (Lexeme.versionDirective major, c)
    else if name = "TAG".toList then do
      let (handle, c) ← tagHandle c.skipSpaces
      if c.next ≠ some ' ' then throw .invalid
      let (expansion, c) ← tagText c.skipSpaces
      if !endsToken c.next then throw .invalid
      pure (Lexeme.tagDirective handle expansion, c)
    else pure (Lexeme.otherDirective, c.skipWhile fun ch => !isBreak ch)
  pure (l, ← c.finishLine)

/-- Reads the name of an anchor or an alias behind its sign. -/
def anchorName (c : Cursor) : Except Fault (List Char × Cursor) := do
  let (name, c) ← word c.step
  let ended :=
    endsWord c.next
      || c.next.any fun ch => ['?', ':', ',', ']', '\x7d', '%', '@', '\x60'].contains ch
  if ended then pure (name, c) else throw .invalid

end Calculator.Yaml
