/-
**Nodes of documents.**

A document is made up of nodes: texts, sequences and mappings, each with a tag.  A node may stand in
several places, even within itself, so nodes have numbers, and a container holds the numbers of its
parts.

Main definitions:

* `Yaml.NodeId`, `Yaml.Content`, `Yaml.Node` — the numbers of nodes, and nodes;
* `Yaml.Graph` — the nodes of a document;
* `Yaml.Graph.add`, `Yaml.Graph.setContent`, `Yaml.Graph.setTag` — what changes a graph;
* `Yaml.Graph.content`, `Yaml.Graph.tag`, `Yaml.Graph.entries` — what a graph says of a node.

Main results:

* `Yaml.Graph.content_setContent`, `Yaml.Graph.tag_setTag` — a change shows at the node that was
  changed;
* `Yaml.Graph.tag_setContent` — new content leaves all tags as they are.
-/

import ElementLookup.Yaml.Tag

set_option autoImplicit false

namespace ElementLookup.Yaml

/-! ### Nodes -/

/-- The number of a node within its document. -/
abbrev NodeId := Nat

/-- What a node holds. -/
inductive Content where
  | text (signs : List Text.Sign)
  | sequence (items : List NodeId)
  | mapping (entries : List (NodeId × NodeId))

/-- A node of a document. -/
structure Node where
  tag : Tag
  content : Content

/-- What a missing text stands for. -/
def Node.empty : Node := ⟨.null, .text []⟩

instance : Inhabited Node := ⟨.empty⟩

/-! ### Graphs -/

/-- The nodes of a document by their numbers. -/
structure Graph where
  nodes : Array Node

namespace Graph

/-- No nodes. -/
def empty : Graph := ⟨#[]⟩

/-- The number of nodes, which the next node will have. -/
def size (g : Graph) : Nat := g.nodes.size

/-- The graph with one more node. -/
def add (g : Graph) (n : Node) : Graph := ⟨g.nodes.push n⟩

/-- The node with a number. -/
def node (g : Graph) (i : NodeId) : Node := (g.nodes[i]?).getD .empty

/-- The tag of a node. -/
def tag (g : Graph) (i : NodeId) : Tag := (g.node i).tag

/-- The content of a node. -/
def content (g : Graph) (i : NodeId) : Content := (g.node i).content

/-- The entries of a mapping. -/
def entries (g : Graph) (i : NodeId) : List (NodeId × NodeId) :=
  match g.content i with
  | .mapping es => es
  | _ => []

/-- The graph with a node's content replaced. -/
def setContent (g : Graph) (i : NodeId) (c : Content) : Graph :=
  ⟨g.nodes.modify i fun n => { n with content := c }⟩

/-- The graph with a node's tag replaced. -/
def setTag (g : Graph) (i : NodeId) (t : Tag) : Graph :=
  ⟨g.nodes.modify i fun n => { n with tag := t }⟩

theorem content_setContent (g : Graph) (i : NodeId) (c : Content) (h : i < g.size) :
    (g.setContent i c).content i = c := by
  have h' : i < g.nodes.size := h
  simp [content, node, setContent, Array.getElem_modify, h']

theorem tag_setTag (g : Graph) (i : NodeId) (t : Tag) (h : i < g.size) :
    (g.setTag i t).tag i = t := by
  have h' : i < g.nodes.size := h
  simp [tag, node, setTag, Array.getElem_modify, h']

theorem tag_setContent (g : Graph) (i j : NodeId) (c : Content) :
    (g.setContent i c).tag j = g.tag j := by
  simp only [tag, node, setContent, Array.getElem?_modify]
  split
  · cases g.nodes[j]? <;> rfl
  · rfl

theorem size_add (g : Graph) (n : Node) : (g.add n).size = g.size + 1 := by
  simp [add, size]

/-- The number of the next node is that of the one added next. -/
theorem node_add (g : Graph) (n : Node) : (g.add n).node g.size = n := by
  simp [add, node, size]

end Graph

end ElementLookup.Yaml
