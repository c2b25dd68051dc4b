import Calculator.Yaml.Graph.Merging
import Calculator.Yaml.Scalar
import Calculator.Yaml.Value.Slots

/-! From a graph to values.  Scalars have their values at once.  A collection is empty at first and
is filled when all collections that were met before it have been, so that it may hold itself; the
first failure on this way counts. -/

namespace Calculator.Yaml

structure Building where
  graph : Graph
  /-- The number of entries of all mappings at first. -/
  entryCount : Nat
  /-- The values of nodes, as far as they have been met. -/
  values : Array (Option Value)
  fillings : Collections
  /-- The collections that are still to be filled, the last one first. -/
  waiting : List (NodeId × CollectionKind) := []

abbrev Builder := StateT Building (Except Fault)

namespace Graph

/-- The text of a scalar.  A mapping may stand for the scalar under its key `=`, but not one that
leads back to it. -/
def scalarText (g : Graph) : Nat → NodeId → Except Fault (List Text.CodePoint)
  | 0, _ => .error (.value .nestedTooDeep)
  | fuel + 1, n =>
      match g.content n with
      | .scalar text => .ok text
      | .mapping entries =>
          match entries.find? fun e => g.tag e.1 = standardTag "value" with
          | some e => scalarText g fuel e.2
          | none => .error .invalid
      | .sequence _ => .error .invalid

/-- The value of a node as a scalar.  The text of a date is its own; what is not a number is one
thing in its own spelling, and another in every other. -/
def scalarValue (g : Graph) (kind : ScalarKind) (n : NodeId) : Except Fault Value := do
  let text ← g.scalarText (g.size + 1) n
  if kind = .timestamp ∧ g.isMapping n then throw (.value .mappingForDate)
  let d ← kind.read text
  pure (.leaf d (if kind = .float ∧ isNanWord text then g.size else n))

end Graph

namespace Builder

/-- Notes that a collection is to be filled. -/
def await (n : NodeId) (kind : CollectionKind) : Builder Value := do
  modify fun b => { b with waiting := (n, kind) :: b.waiting }
  pure (.collection n)

/-- The value of a node that has not been met before. -/
def newValue (n : NodeId) : Builder Value := do
  let g := (← get).graph
  match CollectionKind.ofTag? (g.tag n), ScalarKind.ofTag? (g.tag n) with
  | some kind, _ => await n kind
  | none, some kind => g.scalarValue kind n
  | none, none => throw .invalid

def value (n : NodeId) : Builder Value := do
  match ((← get).values[n]?).join with
  | some v => pure v
  | none => do
      let v ← newValue n
      modify fun b => { b with values := b.values.set! n (some v) }
      pure v

/-- The entries of a node as a mapping, merged. -/
def mergedEntries (n : NodeId) : Builder (List Entry) := do
  let b ← get
  let (entries, graph) ← (Graph.merge b.entryCount n).run b.graph
  set { b with graph }
  pure entries

/-- The key and the value of an entry.  Collections are no keys. -/
def entry (e : Entry) : Builder (Value × Value) := do
  match ← value e.1 with
  | .collection _ => throw .invalid
  | key => do return (key, ← value e.2)

/-- The pair that an item of a list of pairs stands for: a mapping of one entry. -/
def pair (item : NodeId) : Builder (Value × Value) := do
  match (← get).graph.content item with
  | .mapping [e] => do
      let first ← value e.1
      return (first, ← value e.2)
  | _ => throw .invalid

def items (n : NodeId) : Builder (List NodeId) := do
  match (← get).graph.content n with
  | .sequence items => pure items
  | _ => throw .invalid

def filling (n : NodeId) : CollectionKind → Builder Filling
  | .list => do return .list (← (← items n).mapM value)
  | .pairs => do return .pairs (← (← items n).mapM pair)
  | .map => do return .map (Filling.addAll (← (← mergedEntries n).mapM entry))
  | .set => do
      let entries := Filling.addAll (← (← mergedEntries n).mapM entry)
      return .set (Slots.order (entries.map (·.1)))

def fill (c : NodeId × CollectionKind) : Builder Unit := do
  let f ← filling c.1 c.2
  modify fun b => { b with fillings := b.fillings.set! c.1 (some f) }

/-- Fills collections until none is waiting.  Each round fills those that the one before has met. -/
def fillAll : Nat → Builder Unit
  | 0 => pure ()
  | fuel + 1 => do
      match (← get).waiting with
      | [] => pure ()
      | waiting => do
          modify fun b => { b with waiting := [] }
          waiting.reverse.forM fill
          fillAll fuel

end Builder

/-- The value of a node with all collections that it leads to. -/
def Graph.build (g : Graph) (root : NodeId) : Except Fault (Value × Collections) := do
  let start : Building :=
    { graph := g
      entryCount := g.entryCount
      values := Array.replicate g.size none
      fillings := Array.replicate g.size none }
  let (v, b) ← (do
    let v ← Builder.value root
    Builder.fillAll (g.size + 1)
    pure v : Builder Value).run start
  pure (v, b.fillings)

end Calculator.Yaml
