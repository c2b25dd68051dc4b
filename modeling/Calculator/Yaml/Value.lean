import Calculator.Datum
import Calculator.Yaml.Graph

/-! Values of a document.  Collections are shared like the nodes that they come from, and are known
by the numbers of these. -/

namespace Calculator.Yaml

inductive Value where
  /-- A datum.  Its origin tells apart data that equal nothing, not even themselves. -/
  | leaf (d : Datum) (origin : Nat)
  | collection (n : NodeId)

/-- Whether two values are the same key.  Collections are no keys. -/
def Value.same : Value → Value → Bool
  | .leaf d m, .leaf e n => m = n || d.same e
  | _, _ => false

inductive CollectionKind where
  | list
  | map
  | set
  | pairs
  deriving DecidableEq, Repr

def CollectionKind.ofTag? (tag : String) : Option CollectionKind :=
  [("seq", CollectionKind.list), ("map", .map), ("set", .set), ("omap", .pairs),
    ("pairs", .pairs)].findSome? fun e => if tag = standardTag e.1 then some e.2 else none

def CollectionKind.typeName : CollectionKind → String
  | .list | .pairs => "list"
  | .map => "dict"
  | .set => "set"

/-- What a collection holds. -/
inductive Filling where
  | list (items : List Value)
  | map (entries : List (Value × Value))
  | set (items : List Value)
  | pairs (entries : List (Value × Value))

namespace Filling

def kind : Filling → CollectionKind
  | .list _ => .list
  | .map _ => .map
  | .set _ => .set
  | .pairs _ => .pairs

def isEmpty : Filling → Bool
  | .list items | .set items => items.isEmpty
  | .map entries | .pairs entries => entries.isEmpty

/-- The entries of a map to which some have been added one after the other. -/
def addAll (entries : List (Value × Value)) : List (Value × Value) :=
  (entries.foldl (Datum.addEntry Value.same) []).reverse

end Filling

/-- The collections of a document, by the numbers of their nodes. -/
abbrev Collections : Type := Array (Option Filling)

/-- What a collection holds; one that has not been filled is an empty list. -/
def Collections.filling (all : Collections) (n : NodeId) : Filling :=
  (all[n]?.join).getD (.list [])

end Calculator.Yaml
