import StyleBuild.Yaml.Tag

/-!
# Nodes

A document is made of nodes, each with a tag.  They are numbered, and a collection gives its parts
by their numbers: an alias stands for a node that is there already, so that a node can be a part of
several collections, and even of itself.
-/

namespace StyleBuild.Yaml

/-- The entries of a mapping: the numbers of the keys and of the values. -/
abbrev Entries := List (Nat × Nat)

/-- What a node has inside. -/
inductive Content
  | scalar (text : Text)
  | sequence (items : List Nat)
  | mapping (entries : Entries)
  deriving Repr

/-- A node of a document. -/
structure Node where
  tag : Tag
  content : Content
  deriving Repr

/-- The nodes of a document, each at its number. -/
abbrev Nodes := Array Node

/-- A document: its nodes, and the number of the one that has all others inside. -/
structure Document where
  nodes : Nodes
  root : Nat
  deriving Repr

namespace Nodes

/-- Whether a node has the given tag. -/
def hasTag (nodes : Nodes) (tag : Tag) (i : Nat) : Bool := nodes[i]?.any (·.tag = tag)

def content? (nodes : Nodes) (i : Nat) : Option Content := nodes[i]?.map (·.content)

/-- The entries of a node that is a mapping. -/
def entries? (nodes : Nodes) (i : Nat) : Option Entries :=
  match nodes.content? i with
  | some (.mapping es) => some es
  | _ => none

def setContent (nodes : Nodes) (i : Nat) (content : Content) : Nodes :=
  nodes.modify i fun n => { n with content }

def setTag (nodes : Nodes) (i : Nat) (tag : Tag) : Nodes :=
  nodes.modify i fun n => { n with tag }

end Nodes

end StyleBuild.Yaml
