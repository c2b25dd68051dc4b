import Calculator.Yaml.Cursor
import Calculator.Yaml.Form
import Calculator.Yaml.Graph

/-! Merging.  A merge key lets a mapping take over the entries of another one, or of several in a
list; its own entries come after them, and so replace them.  The graph keeps the outcome, and with
it everything that shares the mapping. -/

namespace Calculator.Yaml

abbrev Merging := StateT Graph (Except Fault)

namespace Graph

def isMerge (g : Graph) (e : Entry) : Bool := g.tag e.1 = standardTag "merge"

/-- A key `=` counts as a text from the time on at which its mapping is looked at. -/
def settleKey (g : Graph) (e : Entry) : Graph :=
  if g.tag e.1 = standardTag "value" then g.setTag e.1 (standardTag "str") else g

def entryCount (g : Graph) : Nat := g.toList.foldl countIn 0
  where
  countIn (count : Nat) (node : Node) : Nat :=
    match node.content with
    | .mapping entries => count + entries.length
    | _ => count

mutual

/-- Takes the merge keys out of a mapping, from its entry at `index` on, and says what they take
over.  Every step takes out a merge key or is the last one. -/
def takeOver : Nat → NodeId → Nat → Merging (List Entry)
  | 0, _, _ => pure []
  | fuel + 1, n, index => do
      let g ← get
      let entries := g.entries n
      let ahead := (entries.drop index).takeWhile fun e => !g.isMerge e
      let place := index + ahead.length
      set (ahead.foldl settleKey g)
      match entries.drop place with
      | [] => pure []
      | (_, source) :: later => do
          modify fun g => g.setContent n (.mapping (entries.take place ++ later))
          let these ←
            match g.content source with
            | .sequence items => (·.reverse.flatten) <$> items.mapM (mergeWithin fuel)
            | _ => mergeWithin fuel source
          return these ++ (← takeOver fuel n place)

/-- Puts what a mapping takes over in front of its own entries, and says what it holds then. -/
def mergeWithin : Nat → NodeId → Merging (List Entry)
  | 0, _ => pure []
  | fuel + 1, n => do
      if !(← get).isMapping n then throw .invalid
      let more ← takeOver fuel n 0
      modify fun g => g.setContent n (.mapping (more ++ g.entries n))
      return (← get).entries n

end

/-- Merges a mapping and says what it holds then; `count` is the number of entries that all mappings
had at first, which merge keys cannot outnumber. -/
def merge (count : Nat) (n : NodeId) : Merging (List Entry) := mergeWithin (2 * count + 2) n

end Graph

end Calculator.Yaml
