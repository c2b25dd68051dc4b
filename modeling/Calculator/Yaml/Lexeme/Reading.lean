import Calculator.Yaml.BlockScalar
import Calculator.Yaml.Lexeme.Word
import Calculator.Yaml.QuotedScalar

/-! Reading lexemes.  A key is recognised when the colon behind it is read, and its lexeme is then
put in front of what was read since; such a key has to fit on one line and into 1024 characters. -/

namespace Calculator.Yaml

/-- A place where a key may turn out to start. -/
structure PossibleKey where
  /-- The number of lexemes before it. -/
  position : Nat
  /-- Whether nothing else than a key may start here. -/
  required : Bool
  index : Nat
  line : Nat
  column : Nat

structure Reading where
  cursor : Cursor
  /-- The lexemes, the last one first. -/
  lexemes : List Lexeme := []
  /-- How many lexemes there are. -/
  count : Nat := 0
  /-- How many brackets are open. -/
  flowLevel : Nat := 0
  /-- The column of the innermost block collection, and of those around it. -/
  indent : Int := -1
  outerIndents : List Int := []
  keyAllowed : Bool := true
  /-- The possible keys, each with the number of brackets around it. -/
  possibleKeys : List (Nat × PossibleKey) := []

namespace Reading

def inFlow (r : Reading) : Bool := 0 < r.flowLevel

def emit (r : Reading) (l : Lexeme) : Reading :=
  { r with lexemes := l :: r.lexemes, count := r.count + 1 }

/-- Puts lexemes in front of those from a position on. -/
def emitAt (r : Reading) (position : Nat) (ls : List Lexeme) : Reading :=
  let later := r.count - position
  { r with
    lexemes := r.lexemes.take later ++ ls.reverse ++ r.lexemes.drop later
    count := r.count + ls.length }

def moveTo (r : Reading) (c : Cursor) : Reading := { r with cursor := c }

/-- Forgets the possible keys that have become too long; a required one must not. -/
def dropStaleKeys (r : Reading) : Except Fault Reading :=
  let isStale (k : PossibleKey) := k.line ≠ r.cursor.line || 1024 < r.cursor.index - k.index
  if r.possibleKeys.any fun k => isStale k.2 && k.2.required then .error .invalid
  else .ok { r with possibleKeys := r.possibleKeys.filter fun k => !isStale k.2 }

/-- Forgets the possible key inside the innermost brackets; a required one must not be lost. -/
def dropKey (r : Reading) : Except Fault Reading :=
  match r.possibleKeys.lookup r.flowLevel with
  | none => .ok r
  | some k =>
      if k.required then .error .invalid
      else .ok { r with possibleKeys := r.possibleKeys.filter fun k => k.1 ≠ r.flowLevel }

def noteKey (r : Reading) : Except Fault Reading :=
  if r.keyAllowed then do
    let r ← r.dropKey
    let k : PossibleKey :=
      { position := r.count
        required := !r.inFlow && r.indent = (r.cursor.column : Int)
        index := r.cursor.index
        line := r.cursor.line
        column := r.cursor.column }
    pure { r with possibleKeys := (r.flowLevel, k) :: r.possibleKeys }
  else .ok r

/-- Closes the block collections that are indented further than `column`. -/
def closeBlocks (r : Reading) (column : Int) : Reading :=
  if r.inFlow then r else go r r.outerIndents
where
  go (r : Reading) : List Int → Reading
    | [] => r
    | outer :: rest =>
        if column < r.indent then
          go ({ r with indent := outer, outerIndents := rest }.emit .blockEnd) rest
        else r

/-- Opens a block collection at `column`, unless one is open there already. -/
def openBlock (r : Reading) (column : Nat) : Option Reading :=
  if r.indent < (column : Int) then
    some { r with indent := column, outerIndents := r.indent :: r.outerIndents }
  else none

/-- Skips spaces, comments and line ends.  Behind a line end a key may start. -/
def skipToLexeme : Nat → Reading → Reading
  | 0, r => r
  | fuel + 1, r =>
      let c := r.cursor.skipSpaces.skipComment
      match c.lineBreak? with
      | some (_, c) =>
          skipToLexeme fuel { r with cursor := c, keyAllowed := r.keyAllowed || !r.inFlow }
      | none => r.moveTo c

/-- A directive or a mark between documents closes everything. -/
def atMargin (r : Reading) : Except Fault Reading := do
  let r ← (r.closeBlocks (-1)).dropKey
  pure { r with keyAllowed := false }

def readSeparator (r : Reading) (l : Lexeme) : Except Fault Reading := do
  let r ← r.atMargin
  pure ((r.emit l).moveTo (r.cursor.skip 3))

def openFlow (r : Reading) (l : Lexeme) : Except Fault Reading := do
  let r ← r.noteKey
  pure ({ r with flowLevel := r.flowLevel + 1, keyAllowed := true, cursor := r.cursor.step }.emit l)

def closeFlow (r : Reading) (l : Lexeme) : Except Fault Reading := do
  let r ← r.dropKey
  let level := r.flowLevel - 1
  pure ({ r with flowLevel := level, keyAllowed := false, cursor := r.cursor.step }.emit l)

def readFlowEntry (r : Reading) : Except Fault Reading := do
  let r ← r.dropKey
  pure ({ r with keyAllowed := true, cursor := r.cursor.step }.emit .flowEntry)

/-- Opens a block collection here, unless this is inside brackets. -/
def openHere (r : Reading) (l : Lexeme) : Except Fault Reading :=
  if r.inFlow then .ok r
  else if !r.keyAllowed then .error .invalid
  else
    match r.openBlock r.cursor.column with
    | some r => .ok (r.emit l)
    | none => .ok r

def readBlockEntry (r : Reading) : Except Fault Reading := do
  let r ← r.openHere .blockSequenceStart
  let r ← { r with keyAllowed := true }.dropKey
  pure (({ r with cursor := r.cursor.step }).emit .blockEntry)

def readKey (r : Reading) : Except Fault Reading := do
  let r ← r.openHere .blockMappingStart
  let r ← { r with keyAllowed := !r.inFlow }.dropKey
  pure (({ r with cursor := r.cursor.step }).emit .key)

/-- Reads the colon before a value.  If a possible key stands before it, that is the key. -/
def readValue (r : Reading) : Except Fault Reading :=
  match r.possibleKeys.lookup r.flowLevel with
  | some k =>
      let r := { r with
        possibleKeys := r.possibleKeys.filter fun k => k.1 ≠ r.flowLevel
        keyAllowed := false
        cursor := r.cursor.step }
      let opened := if r.inFlow then none else r.openBlock k.column
      let r :=
        match opened with
        | some r => r.emitAt k.position [.blockMappingStart, .key]
        | none => r.emitAt k.position [.key]
      .ok (r.emit .value)
  | none => do
      let r ← r.openHere .blockMappingStart
      let r ← { r with keyAllowed := !r.inFlow }.dropKey
      pure (({ r with cursor := r.cursor.step }).emit .value)

def readKeyPart (r : Reading) (read : Cursor → Except Fault (Lexeme × Cursor)) :
    Except Fault Reading := do
  let r ← r.noteKey
  let (l, c) ← read r.cursor
  pure ({ r with keyAllowed := false, cursor := c }.emit l)

def readBlockScalar (r : Reading) (folded : Bool) : Except Fault Reading := do
  let r ← { r with keyAllowed := true }.dropKey
  let (text, c) ← blockScalar folded r.indent r.cursor.step
  pure ((r.moveTo c).emit (.scalar false (Text.codePoints text)))

def readPlain (r : Reading) : Except Fault Reading := do
  let r ← r.noteKey
  let (text, c, brokeLine) := plainScalar r.inFlow (r.indent + 1) r.cursor
  pure ({ r with keyAllowed := brokeLine, cursor := c }.emit (.scalar true (Text.codePoints text)))

/-- The characters that no plain scalar starts with. -/
def isIndicator (c : Char) : Bool :=
  ['-', '?', ':', ',', '[', ']', '\x7b', '\x7d', '#', '&', '*', '!', '|', '>', '\x27', '\x22', '%',
    '@', '\x60'].contains c

/-- Whether a plain scalar starts here: some indicators may start one before a character. -/
def startsPlain (r : Reading) (c : Char) : Bool :=
  !(endsWord (some c) || isIndicator c)
    || (!endsWord (r.cursor.ahead 1) && (c = '-' || (!r.inFlow && (c = '?' || c = ':'))))

def readLexeme (r : Reading) (c : Char) : Except Fault Reading :=
  let wordEnds := endsWord (r.cursor.ahead 1)
  if c = '%' ∧ r.cursor.column = 0 then do
    let r ← r.atMargin
    let (l, c) ← directive r.cursor
    pure ((r.moveTo c).emit l)
  else if r.cursor.column = 0 ∧ r.cursor.isMark '-' then r.readSeparator .documentStart
  else if r.cursor.column = 0 ∧ r.cursor.isMark '.' then r.readSeparator .documentEnd
  else if c = '[' then r.openFlow .flowSequenceStart
  else if c = '\x7b' then r.openFlow .flowMappingStart
  else if c = ']' then r.closeFlow .flowSequenceEnd
  else if c = '\x7d' then r.closeFlow .flowMappingEnd
  else if c = ',' then r.readFlowEntry
  else if c = '-' ∧ wordEnds then r.readBlockEntry
  else if c = '?' ∧ (r.inFlow ∨ wordEnds) then r.readKey
  else if c = ':' ∧ (r.inFlow ∨ wordEnds) then r.readValue
  else if c = '*' then
    r.readKeyPart fun c => do
      let (name, c) ← anchorName c
      pure (.alias name, c)
  else if c = '&' then
    r.readKeyPart fun c => do
      let (name, c) ← anchorName c
      pure (.anchor name, c)
  else if c = '!' then
    r.readKeyPart fun c => do
      let (t, c) ← writtenTag c
      pure (.tag t, c)
  else if c = '|' ∧ !r.inFlow then r.readBlockScalar false
  else if c = '>' ∧ !r.inFlow then r.readBlockScalar true
  else if c = '\x27' ∨ c = '\x22' then
    r.readKeyPart fun cursor => do
      let (text, cursor) ← quotedScalar c cursor
      pure (.scalar false text, cursor)
  else if r.startsPlain c then r.readPlain
  else .error .invalid

/-- Reads what comes next: a lexeme, or the end of the text, where nothing is left to read. -/
def readNext (r : Reading) : Except Fault (Reading × Bool) := do
  let r := skipToLexeme (r.cursor.size + 1) r
  let r ← r.dropStaleKeys
  let r := r.closeBlocks r.cursor.column
  match r.cursor.next with
  | none =>
      let r ← (r.closeBlocks (-1)).dropKey
      pure (r, false)
  | some c =>
      let r ← r.readLexeme c
      pure (r, true)

/-- How many of the lexemes can be given away.  In front of the first possible key there may still
come others. -/
def settled (r : Reading) : Nat := (r.possibleKeys.map fun k => k.2.position).foldl min r.count

/-- Reads all lexemes.  Each of them takes at least one character. -/
def readAll : Nat → Reading → Except Fault Lexemes
  | 0, _ => .error .invalid
  | fuel + 1, r =>
      match r.readNext with
      | .ok (r, true) => readAll fuel r
      | .ok (r, false) => .ok ⟨r.lexemes.reverse, none⟩
      | .error .invalid => .error .invalid
      | .error (.value f) => do
          let r ← r.dropStaleKeys
          pure ⟨r.lexemes.reverse.take r.settled, some f⟩

end Reading

/-- The lexemes of a document.  Where reading one fails without breaking the rules of the language,
those before it may show that the document breaks them; otherwise it is broken as a whole. -/
def Lexemes.read (text : List Char) : Except Fault Lexemes :=
  if text.all isPermitted then
    let text :=
      match text with
      | '\ufeff' :: rest => rest
      | _ => text
    Reading.readAll (text.length + 1) { cursor := .start text }
  else .error .invalid

end Calculator.Yaml
