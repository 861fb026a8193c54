import StyleBuild.Yaml.Grammar
import StyleBuild.Yaml.Merge
import StyleBuild.Yaml.Scalar
import StyleBuild.Yaml.Token.Lexer

/-!
# The value of a document

Nodes become values, each node once.  A scalar is read when it is met; a collection waits until the
collections that were met before it have been filled, so that what cannot be read is found level by
level from the outermost node on.  The first fault counts.

A document can have itself inside, and one that is short can unfold to a tree of any size.  So the
value is only unfolded to a given depth, and what lies deeper is left out.
-/

namespace StyleBuild.Yaml

/-- A tag of nodes with parts. -/
def Tag.isCollection (tag : Tag) : Bool := [seq, map, set, orderedMap, pairs].contains tag

namespace Nodes

/-- The text of a node that is read as a scalar: a mapping stands for what its value key has. -/
def text? (nodes : Nodes) : (fuel : Nat) → (i : Nat) → Option Text
  | 0, _ => none
  | fuel + 1, i =>
    match nodes.content? i with
    | some (.scalar text) => some text
    | some (.mapping es) =>
      (es.find? fun e => nodes.hasTag .value e.1).bind fun e => nodes.text? fuel e.2
    | _ => none

/-- Reads a node as a scalar.  A date has to be written out as one. -/
def readScalar (nodes : Nodes) (i : Nat) : Except Refusal Scalar :=
  match nodes[i]?, nodes.text? (nodes.size + 1) i with
  | some ⟨.timestamp, .mapping _⟩, some _ => .error (.fault .misplacedDate)
  | some node, some text => node.tag.readScalar text
  | _, _ => .error .malformed

end Nodes

/-- What was made of a node. -/
inductive Made
  | scalar (s : Scalar)
  | collection
  deriving Repr

/-- What is known while the nodes of a document become values. -/
structure Making where
  nodes : Nodes
  /-- How many merge keys there were. -/
  merges : Nat
  /-- What was made of the nodes so far. -/
  made : Array (Option Made)
  /-- The collections in the order in which they were met. -/
  collections : Array Nat

namespace Making

/-- A step of making values. -/
abbrev Step := StateT Making (Except Refusal)

def refuse {α : Type} : Step α := throw .malformed

/-- Keeps what was made of a node. -/
def keep (i : Nat) (m : Made) : Step Unit :=
  modify fun w => { w with made := w.made.setIfInBounds i (some m) }

/-- What a node is, which is found out once. -/
def make (i : Nat) : Step Made := do
  let w ← get
  match w.made[i]?.join, w.nodes[i]? with
  | some m, _ => return m
  | none, some node =>
    if node.tag.isCollection then
      modify fun w => { w with collections := w.collections.push i }
      keep i .collection
      return .collection
    let s ← w.nodes.readScalar i
    keep i (.scalar s)
    return .scalar s
  | none, none => refuse

/-- Makes the key and the value of an entry.  A collection is no key. -/
def makeEntry (e : Nat × Nat) : Step Unit := do
  match ← make e.1 with
  | .scalar _ => discard <| make e.2
  | .collection => refuse

/-- Makes what a mapping with one entry has, as an item of an ordered collection. -/
def makePair (i : Nat) : Step Unit := do
  match (← get).nodes.entries? i with
  | some [(k, v)] =>
    discard <| make k
    discard <| make v
  | _ => refuse

/-- Resolves the merge keys of a mapping. -/
def flatten (i : Nat) : Step Entries := do
  let w ← get
  let (entries, nodes) ← (Merging.flatten w.merges i).run w.nodes
  set { w with nodes }
  return entries

/-- Makes the parts of a collection. -/
def fill (i : Nat) : Step Unit := do
  match (← get).nodes[i]? with
  | some ⟨.seq, .sequence items⟩ => items.forM fun j => discard <| make j
  | some ⟨.orderedMap, .sequence items⟩ => items.forM makePair
  | some ⟨.pairs, .sequence items⟩ => items.forM makePair
  | some ⟨.map, .mapping _⟩ => (← flatten i).forM makeEntry
  | some ⟨.set, .mapping _⟩ => (← flatten i).forM makeEntry
  | _ => refuse

/-- Fills the collections from the given one on, also those that are met on the way. -/
def fillFrom (next : Nat) : (fuel : Nat) → Step Unit
  | 0 => refuse
  | fuel + 1 => do
    match (← get).collections[next]? with
    | none => return
    | some i =>
      fill i
      fillFrom (next + 1) fuel

/-- Makes all of a document; each node is filled at most once. -/
def all (d : Document) : Step Unit := do
  discard <| make d.root
  fillFrom 0 (d.nodes.size + 1)

/-! ## Unfolding -/

/-- A key of a mapping.  Keys with one origin are the same key, also where a value is not equal to
itself; what has no origin is the one value that is no number. -/
structure Key where
  origin : Option Nat
  scalar : Scalar

def Key.isSame (a b : Key) : Bool := a.origin = b.origin || a.scalar.sameKey b.scalar

def scalar? (w : Making) (i : Nat) : Option Scalar :=
  match w.made[i]?.join with
  | some (.scalar s) => some s
  | _ => none

/-- The key that a node is. -/
def key? (w : Making) (i : Nat) : Option Key :=
  (w.scalar? i).map fun s =>
    let isShared := w.nodes.hasTag .float i &&
      ((w.nodes.text? (w.nodes.size + 1) i).any Tag.isNotNumber)
    ⟨if isShared then none else some i, s⟩

/-- Binds a key: of several that are the same, the first one stays, with the last value. -/
def bind (key : Key) (value : Nat) : List (Key × Nat) → List (Key × Nat)
  | [] => [(key, value)]
  | (k, v) :: r => if k.isSame key then (k, value) :: r else (k, v) :: bind key value r

/-- The keys of a mapping with the numbers of their values, each key once. -/
def bindings (w : Making) (es : Entries) : List (Scalar × Nat) :=
  let bound := es.foldl (fun soFar (k, v) => match w.key? k with
    | some key => bind key v soFar
    | none => soFar) []
  bound.map fun (k, v) => (k.scalar, v)

/-- The value of a node down to a depth.  Collections below it are given as empty lists, and so are
the pairs of an ordered collection. -/
def value (w : Making) : (depth : Nat) → (i : Nat) → Value
  | 0, i => ((w.scalar? i).map .scalar).getD (.list [])
  | depth + 1, i =>
    match w.scalar? i, w.nodes[i]? with
    | some s, _ => .scalar s
    | none, some ⟨.map, .mapping es⟩ =>
      .map ((w.bindings es).map fun (k, v) => (k, w.value depth v))
    | none, some ⟨.set, .mapping es⟩ => .set ((w.bindings es).map (·.1))
    | none, some ⟨.seq, .sequence items⟩ => .list (items.map (w.value depth))
    | none, some ⟨_, .sequence items⟩ => .list (items.map fun _ => .list [])
    | none, _ => .list []

end Making

/-- The value of a document down to a depth. -/
def Document.value (depth : Nat) (d : Document) : Except Refusal Value :=
  match (Making.all d).run
      ⟨d.nodes, Merging.count d.nodes, Array.replicate d.nodes.size none, #[]⟩ with
  | .ok ((), w) => .ok (w.value depth d.root)
  | .error e => .error e

/-- The value of the document that a text is, if there is one, down to a depth. -/
def ofText (depth : Nat) (t : Text) : Except Refusal (Option Value) := do
  match ← Document.ofTokens (← Tokens.ofText t) with
  | none => return none
  | some d => return some (← d.value depth)

end StyleBuild.Yaml
