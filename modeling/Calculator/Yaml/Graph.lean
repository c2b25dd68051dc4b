import Calculator.Text.CodePoint

/-! Graphs of nodes.  A document consists of scalars, sequences and mappings, each with its tag.  A
node that is named may take part in several others, and in itself, so nodes refer to each other by
number. -/

namespace Calculator.Yaml

def standardTag (name : String) : String := "tag:yaml.org,2002:" ++ name

/-- The number of a node: its place in the graph. -/
abbrev NodeId : Type := Nat

abbrev Entry : Type := NodeId × NodeId

inductive Content where
  | scalar (text : List Text.CodePoint)
  | sequence (items : List NodeId)
  | mapping (entries : List Entry)
  deriving DecidableEq, Repr

structure Node where
  tag : String
  content : Content
  deriving DecidableEq, Repr

abbrev Graph : Type := Array Node

namespace Graph

def tag (g : Graph) (n : NodeId) : String := (g[n]?.map Node.tag).getD ""

def content (g : Graph) (n : NodeId) : Content := (g[n]?.map Node.content).getD (.scalar [])

def entries (g : Graph) (n : NodeId) : List Entry :=
  match g.content n with
  | .mapping entries => entries
  | _ => []

def isMapping (g : Graph) (n : NodeId) : Bool :=
  match g.content n with
  | .mapping _ => true
  | _ => false

def setTag (g : Graph) (n : NodeId) (tag : String) : Graph :=
  g.modify n fun node => { node with tag }

def setContent (g : Graph) (n : NodeId) (content : Content) : Graph :=
  g.modify n fun node => { node with content }

@[simp] theorem size_setTag (g : Graph) (n : NodeId) (tag : String) :
    (g.setTag n tag).size = g.size := by
  simp [setTag]

@[simp] theorem size_setContent (g : Graph) (n : NodeId) (content : Content) :
    (g.setContent n content).size = g.size := by
  simp [setContent]

theorem content_setContent {g : Graph} {n : NodeId} (h : n < g.size) (content : Content) :
    (g.setContent n content).content n = content := by
  simp [Graph.content, setContent, Array.getElem_modify, h]

theorem tag_setTag {g : Graph} {n : NodeId} (h : n < g.size) (tag : String) :
    (g.setTag n tag).tag n = tag := by
  simp [Graph.tag, setTag, Array.getElem_modify, h]

end Graph

end Calculator.Yaml
