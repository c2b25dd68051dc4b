import Calculator.Yaml.Form
import Calculator.Yaml.Graph
import Calculator.Yaml.Lexeme

/-! From lexemes to a graph.  An alias stands for the node that carries its anchor, also inside that
node.  Lexemes are asked for one by one and not before they are needed, since it may be a failure to
ask for the next one. -/

namespace Calculator.Yaml

/-- What is left to read, and what has been learnt so far. -/
structure Rest where
  lexemes : Lexemes
  handles : List (List Char × List Char) := []
  anchors : List (List Char × NodeId) := []
  graph : Graph := #[]

abbrev Reader := StateT Rest (Except Fault)

namespace Reader

def peek : Reader (Option Lexeme) := do
  let ls := (← get).lexemes
  match ls.list, ls.failure with
  | l :: _, _ => pure (some l)
  | [], none => pure none
  | [], some f => throw (.value f)

def advance : Reader Unit :=
  modify fun r => { r with lexemes := { r.lexemes with list := r.lexemes.list.tail } }

def accept (l : Lexeme) : Reader Bool := do
  if (← peek) = some l then
    advance
    pure true
  else pure false

def expect (l : Lexeme) : Reader Unit := do
  if !(← accept l) then throw .invalid

def sees (ls : List Lexeme) : Reader Bool := do
  match ← peek with
  | some l => pure (ls.contains l)
  | none => pure false

/-- Adds a node, which is known by its anchor from now on. -/
def add (anchor : Option (List Char)) (tag : String) (content : Content) : Reader NodeId := do
  let n := (← get).graph.size
  modify fun r => { r with
    graph := r.graph.push ⟨tag, content⟩
    anchors := (anchor.map fun name => (name, n)).toList ++ r.anchors }
  pure n

def complete (n : NodeId) (content : Content) : Reader Unit :=
  modify fun r => { r with graph := r.graph.setContent n content }

/-- No two nodes have one name. -/
def checkUnused (anchor : Option (List Char)) : Reader Unit := do
  match anchor with
  | none => pure ()
  | some name => if ((← get).anchors.lookup name).isSome then throw .invalid

/-- The full form of a written tag. -/
def expand (t : WrittenTag) : Reader (List Char) := do
  match t.handle with
  | none => pure t.suffix
  | some handle =>
      match (← get).handles.lookup handle with
      | some expansion => pure (expansion ++ t.suffix)
      | none => throw .invalid

/-- An anchor and a tag before a node, in either order. -/
def properties : Reader (Option (List Char) × Option (List Char)) := do
  match ← peek with
  | some (.anchor name) =>
      advance
      match ← peek with
      | some (.tag t) =>
          advance
          pure (some name, some (← expand t))
      | _ => pure (some name, none)
  | some (.tag t) =>
      advance
      match ← peek with
      | some (.anchor name) =>
          advance
          pure (some name, some (← expand t))
      | _ => pure (none, some (← expand t))
  | _ => pure (none, none)

end Reader

namespace Graph

def collectionTag (tag : Option (List Char)) (name : String) : String :=
  match tag with
  | none => standardTag name
  | some tag => if tag = ['!'] then standardTag name else String.ofList tag

/-- The tag of a scalar; the tag `!` alone stands for the one that plain text would have. -/
def scalarTag (tag : Option (List Char)) (plain : Bool) (text : List Text.CodePoint) : String :=
  match tag with
  | none => if plain then plainTag text else standardTag "str"
  | some tag => if tag = ['!'] then plainTag text else String.ofList tag

/-- A scalar that is not written. -/
def addMissing : Reader NodeId := Reader.add none (plainTag []) (.scalar [])

/-- A node that consists of its anchor and tag alone. -/
def addEmpty (anchor tag : Option (List Char)) : Reader NodeId := do
  if anchor.isNone && tag.isNone then throw .invalid
  Reader.checkUnused anchor
  Reader.add anchor (scalarTag tag tag.isNone []) (.scalar [])

mutual

/-- Reads a node.  Block collections stand outside of brackets only, and as a value of a mapping a
sequence may be indented as far as the mapping. -/
def readNode (block unindented : Bool) : Nat → Reader NodeId
  | 0 => throw .invalid
  | fuel + 1 => do
      match ← Reader.peek with
      | some (.alias name) =>
          Reader.advance
          match (← get).anchors.lookup name with
          | some n => pure n
          | none => throw .invalid
      | _ =>
          let (anchor, tag) ← Reader.properties
          let sequence (read : Reader (List NodeId)) : Reader NodeId := do
            Reader.checkUnused anchor
            let n ← Reader.add anchor (collectionTag tag "seq") (.sequence [])
            Reader.complete n (.sequence (← read))
            pure n
          let mapping (read : Reader (List Entry)) : Reader NodeId := do
            Reader.checkUnused anchor
            let n ← Reader.add anchor (collectionTag tag "map") (.mapping [])
            Reader.complete n (.mapping (← read))
            pure n
          match ← Reader.peek with
          | some .blockEntry =>
              if unindented then sequence (readUnindented fuel) else addEmpty anchor tag
          | some (.scalar plain text) =>
              Reader.advance
              Reader.checkUnused anchor
              Reader.add anchor (scalarTag tag plain text) (.scalar text)
          | some .flowSequenceStart => sequence (Reader.advance *> readFlowItems true fuel)
          | some .flowMappingStart => mapping (Reader.advance *> readFlowEntries true fuel)
          | some .blockSequenceStart =>
              if block then sequence (Reader.advance *> readBlockItems fuel)
              else addEmpty anchor tag
          | some .blockMappingStart =>
              if block then mapping (Reader.advance *> readBlockEntries fuel)
              else addEmpty anchor tag
          | _ => addEmpty anchor tag

def readBlockItems : Nat → Reader (List NodeId)
  | 0 => throw .invalid
  | fuel + 1 => do
      if ← Reader.accept .blockEntry then
        let n ←
          if ← Reader.sees [.blockEntry, .blockEnd] then addMissing
          else readNode true false fuel
        return n :: (← readBlockItems fuel)
      else
        Reader.expect .blockEnd
        pure []

/-- The items of a sequence that is indented as far as the mapping around it. -/
def readUnindented : Nat → Reader (List NodeId)
  | 0 => throw .invalid
  | fuel + 1 => do
      if ← Reader.accept .blockEntry then
        let n ←
          if ← Reader.sees [.blockEntry, .key, .value, .blockEnd] then addMissing
          else readNode true false fuel
        return n :: (← readUnindented fuel)
      else pure []

/-- A key or a value of a block mapping behind its sign. -/
def readBlockPart : Nat → Reader NodeId
  | 0 => throw .invalid
  | fuel + 1 => do
      if ← Reader.sees [.key, .value, .blockEnd] then addMissing else readNode true true fuel

def readBlockEntries : Nat → Reader (List Entry)
  | 0 => throw .invalid
  | fuel + 1 => do
      if ← Reader.accept .key then
        let key ← readBlockPart fuel
        let value ← if ← Reader.accept .value then readBlockPart fuel else addMissing
        return (key, value) :: (← readBlockEntries fuel)
      else
        Reader.expect .blockEnd
        pure []

/-- A node in brackets, unless one of some lexemes comes next. -/
def readFlowPart (stops : List Lexeme) : Nat → Reader NodeId
  | 0 => throw .invalid
  | fuel + 1 => do
      if ← Reader.sees stops then addMissing else readNode false false fuel

/-- A key and a value in brackets behind the sign of the key; `stop` closes the brackets. -/
def readFlowEntry (stop : Lexeme) : Nat → Reader Entry
  | 0 => throw .invalid
  | fuel + 1 => do
      let key ← readFlowPart [.value, .flowEntry, stop] fuel
      let value ←
        if ← Reader.accept .value then readFlowPart [.flowEntry, stop] fuel else addMissing
      pure (key, value)

/-- The items of a sequence in brackets.  An item may be a mapping of one entry. -/
def readFlowItems (first : Bool) : Nat → Reader (List NodeId)
  | 0 => throw .invalid
  | fuel + 1 => do
      if ← Reader.accept .flowSequenceEnd then pure []
      else
        if !first then Reader.expect .flowEntry
        if ← Reader.accept .key then
          let n ← Reader.add none (standardTag "map") (.mapping [])
          let entry ← readFlowEntry .flowSequenceEnd fuel
          Reader.complete n (.mapping [entry])
          return n :: (← readFlowItems false fuel)
        else if ← Reader.accept .flowSequenceEnd then pure []
        else
          let n ← readNode false false fuel
          return n :: (← readFlowItems false fuel)

/-- The entries of a mapping in brackets.  A node alone is a key without a value. -/
def readFlowEntries (first : Bool) : Nat → Reader (List Entry)
  | 0 => throw .invalid
  | fuel + 1 => do
      if ← Reader.accept .flowMappingEnd then pure []
      else
        if !first then Reader.expect .flowEntry
        if ← Reader.accept .key then
          let entry ← readFlowEntry .flowMappingEnd fuel
          return entry :: (← readFlowEntries false fuel)
        else if ← Reader.accept .flowMappingEnd then pure []
        else
          let key ← readNode false false fuel
          let value ← addMissing
          return (key, value) :: (← readFlowEntries false fuel)

end

def standardHandles : List (List Char × List Char) :=
  [(['!'], ['!']), (['!', '!'], (standardTag "").toList)]

/-- Reads the directives of a document: the version, at most once, and handles for tags. -/
def readDirectives : Nat → Bool → Reader Unit
  | 0, _ => throw .invalid
  | fuel + 1, versioned => do
      match ← Reader.peek with
      | some (.versionDirective major) =>
          if versioned ∨ major ≠ 1 then throw .invalid
          Reader.advance
          readDirectives fuel true
      | some (.tagDirective handle expansion) =>
          if ((← get).handles.lookup handle).isSome then throw .invalid
          modify fun r => { r with handles := (handle, expansion) :: r.handles }
          Reader.advance
          readDirectives fuel versioned
      | some .otherDirective =>
          Reader.advance
          readDirectives fuel versioned
      | _ => pure ()

/-- Reads the mark that starts a document, and the directives before it. -/
def readStart (fuel : Nat) : Reader Unit := do
  modify fun r => { r with handles := [] }
  readDirectives fuel false
  Reader.expect .documentStart
  modify fun r => { r with handles := r.handles ++ standardHandles }

def skipEnds : Nat → Reader Unit
  | 0 => throw .invalid
  | fuel + 1 => do if ← Reader.accept .documentEnd then skipEnds fuel

/-- Whether the next lexeme belongs to the start of a document. -/
def seesStart : Reader Bool := do
  match ← Reader.peek with
  | some (.versionDirective _) | some (.tagDirective ..) | some .otherDirective
  | some .documentStart => pure true
  | _ => pure false

/-- Reads the only document there is, unless there is nothing at all.  It may go without a mark, or
have nothing behind its mark. -/
def readDocument (fuel : Nat) : Reader (Option NodeId) := do
  let root ←
    if ← seesStart then do
      readStart fuel
      if (← Reader.peek).isNone || (← seesStart) || (← Reader.sees [.documentEnd]) then
        some <$> addMissing
      else some <$> readNode true false fuel
    else if (← Reader.peek).isNone then pure none
    else do
      modify fun r => { r with handles := standardHandles }
      some <$> readNode true false fuel
  skipEnds fuel
  if (← Reader.peek).isSome then
    readStart fuel
    throw .invalid
  pure root

/-- The graph of a document and the node that stands for it, if it is not empty. -/
def ofLexemes (lexemes : Lexemes) : Except Fault (Option (Graph × NodeId)) := do
  let fuel := 4 * lexemes.list.length + 8
  let (root, rest) ← (readDocument fuel).run { lexemes }
  pure (root.map fun n => (rest.graph, n))

end Graph

end Calculator.Yaml
