import StyleBuild.Yaml.Node
import StyleBuild.Yaml.Token

/-!
# The grammar

Tokens make up nodes by the grammar of blocks and flow collections (`Document.ofTokens`).

An anchor gives a node a name, and an alias stands for the node with that name.  A name can be given
only once, and before it is used; a collection has its name while its inside is read.
-/

namespace StyleBuild.Yaml

/-- What is known while a document is read. -/
structure Grammar where
  tokens : List Token
  /-- What is met after the tokens, if it is not the end of the text. -/
  fault : Option Fault
  /-- What tag handles stand for. -/
  handles : List (Text × Text)
  /-- The nodes that have names. -/
  anchors : List (Text × Nat)
  /-- The nodes so far. -/
  nodes : Nodes

/-- A step of reading. -/
abbrev Parse := StateT Grammar (Except Refusal)

namespace Parse

def refuse {α : Type} : Parse α := throw .malformed

def peek : Parse (Option Token) := do
  let g ← get
  match g.tokens.head?, g.fault with
  | some t, _ => return some t
  | none, some e => throw (.fault e)
  | none, none => return none

def drop : Parse Unit := modify fun g => { g with tokens := g.tokens.drop 1 }

/-- Takes the given token if it comes next. -/
def accept (t : Token) : Parse Bool := do
  if (← peek) = some t then
    drop
    return true
  return false

def expect (t : Token) : Parse Unit := do
  if !(← accept t) then refuse

/-- Whether one of the given tokens comes next. -/
def atAny (ts : List Token) : Parse Bool := return (← peek).any ts.contains

/-! ## Properties -/

/-- A tag in full. -/
def tagText (handle : Option Text) (suffix : Text) : Parse Text := do
  match handle with
  | none => return suffix
  | some handle =>
    match (← get).handles.find? (·.1 = handle) with
    | some (_, start) => return start ++ suffix
    | none => refuse

def anchor? : Parse (Option Text) := do
  match ← peek with
  | some (.anchor name) => drop; return some name
  | _ => return none

def tag? : Parse (Option Text) := do
  match ← peek with
  | some (.tag handle suffix) => drop; return some (← tagText handle suffix)
  | _ => return none

/-- An anchor and a tag, in either order. -/
def properties : Parse (Option Text × Option Text) := do
  match ← anchor? with
  | some name => return (some name, ← tag?)
  | none =>
    let tag ← tag?
    return (← anchor?, tag)

/-- Adds a node and gives its number. -/
def add (tag : Tag) (content : Content) : Parse Nat :=
  modifyGet fun g => (g.nodes.size, { g with nodes := g.nodes.push ⟨tag, content⟩ })

/-- Where nothing is written. -/
def absent : Parse Nat := add .null (.scalar [])

/-- Gives a node a name that is new. -/
def define (name : Option Text) (i : Nat) : Parse Unit := do
  if let some name := name then
    if (← get).anchors.any (·.1 = name) then refuse
    modify fun g => { g with anchors := (name, i) :: g.anchors }

def named (name : Text) : Parse Nat := do
  match (← get).anchors.find? (·.1 = name) with
  | some (_, i) => return i
  | none => refuse

/-- Whether a tag leaves the reading of a node open. -/
def isOpen (tag : Option Text) : Bool := tag = none || tag = some ['!']

/-- The tag of a scalar: by its form if it is plain, or if it is marked to be read so. -/
def scalarTag (tag : Option Text) (text : Text) (plain : Bool) : Tag :=
  match tag with
  | none => if plain then Tag.ofPlain text else .str
  | some tag => if tag = ['!'] then Tag.ofPlain text else Tag.ofText tag

/-- The tag of a collection. -/
def collectionTag (tag : Option Text) (usual : Tag) : Tag :=
  match tag with
  | some text => if isOpen tag then usual else Tag.ofText text
  | none => usual

/-! ## The grammar -/

/-- A scalar. -/
def scalarNode (anchor tag : Option Text) (text : Text) (plain : Bool) : Parse Nat := do
  let i ← add (scalarTag tag text plain) (.scalar text)
  define anchor i
  return i

/-- Reads the inside of a collection whose node has a number and a name by then. -/
def collectionNode (anchor : Option Text) (tag : Tag) (inside : Parse Content) : Parse Nat := do
  let i ← add tag (.sequence [])
  define anchor i
  let content ← inside
  modify fun g => { g with nodes := g.nodes.setContent i content }
  return i

def sequenceNode (anchor tag : Option Text) (inside : Parse (List Nat)) : Parse Nat :=
  collectionNode anchor (collectionTag tag .seq) (.sequence <$> inside)

def mappingNode (anchor tag : Option Text) (inside : Parse Entries) : Parse Nat :=
  collectionNode anchor (collectionTag tag .map) (.mapping <$> inside)

/-- What ends a part of a block mapping. -/
def blockStops : List Token := [.key, .value, .blockEnd]

mutual

/-- A node.  `block` admits block collections, `indentless` sequences that are not indented. -/
def node (block indentless : Bool) : (fuel : Nat) → Parse Nat
  | 0 => refuse
  | fuel + 1 => do
    if let some (.reference name) ← peek then
      drop
      return ← named name
    let (anchor, tag) ← properties
    match ← peek with
    | some (.scalar text plain) =>
      drop
      scalarNode anchor tag text plain
    | some .flowSequenceStart =>
      drop
      sequenceNode anchor tag (flowItems true fuel)
    | some .flowMappingStart =>
      drop
      mappingNode anchor tag (flowEntries true fuel)
    | next =>
      if indentless && next = some .blockEntry then
        sequenceNode anchor tag (indentlessItems fuel)
      else if block && next = some .blockSequenceStart then
        drop
        sequenceNode anchor tag (blockItems fuel)
      else if block && next = some .blockMappingStart then
        drop
        mappingNode anchor tag (blockEntries fuel)
      else if anchor.isSome || tag.isSome then
        scalarNode anchor tag [] true
      else refuse

/-- A node, unless what comes next shows that nothing is written. -/
def nodeUnless (stops : List Token) (block indentless : Bool) : (fuel : Nat) → Parse Nat
  | 0 => refuse
  | fuel + 1 => do
    if ← atAny stops then return ← absent
    node block indentless fuel

/-- The items of a block sequence, through its end. -/
def blockItems : (fuel : Nat) → Parse (List Nat)
  | 0 => refuse
  | fuel + 1 => do
    if ← accept .blockEntry then
      let n ← nodeUnless [.blockEntry, .blockEnd] true false fuel
      return n :: (← blockItems fuel)
    expect .blockEnd
    return []

/-- The items of a sequence that is not indented. -/
def indentlessItems : (fuel : Nat) → Parse (List Nat)
  | 0 => refuse
  | fuel + 1 => do
    if ← accept .blockEntry then
      let n ← nodeUnless (.blockEntry :: blockStops) true false fuel
      return n :: (← indentlessItems fuel)
    return []

/-- The entries of a block mapping, through its end. -/
def blockEntries : (fuel : Nat) → Parse Entries
  | 0 => refuse
  | fuel + 1 => do
    if ← accept .key then
      let k ← nodeUnless blockStops true true fuel
      let v ← if ← accept .value then nodeUnless blockStops true true fuel else absent
      return (k, v) :: (← blockEntries fuel)
    expect .blockEnd
    return []

/-- The items of a flow sequence, through its end. -/
def flowItems (first : Bool) : (fuel : Nat) → Parse (List Nat)
  | 0 => refuse
  | fuel + 1 => do
    if ← accept .flowSequenceEnd then return []
    if !first then expect .flowEntry
    if ← accept .flowSequenceEnd then return []
    if ← accept .key then
      let k ← nodeUnless [.value, .flowEntry, .flowSequenceEnd] false false fuel
      let v ← if ← accept .value then
          nodeUnless [.flowEntry, .flowSequenceEnd] false false fuel
        else absent
      let pair ← add .map (.mapping [(k, v)])
      return pair :: (← flowItems false fuel)
    let n ← node false false fuel
    return n :: (← flowItems false fuel)

/-- The entries of a flow mapping, through its end. -/
def flowEntries (first : Bool) : (fuel : Nat) → Parse Entries
  | 0 => refuse
  | fuel + 1 => do
    if ← accept .flowMappingEnd then return []
    if !first then expect .flowEntry
    if ← accept .flowMappingEnd then return []
    if ← accept .key then
      let k ← nodeUnless [.value, .flowEntry, .flowMappingEnd] false false fuel
      let v ← if ← accept .value then
          nodeUnless [.flowEntry, .flowMappingEnd] false false fuel
        else absent
      return (k, v) :: (← flowEntries false fuel)
    let k ← node false false fuel
    let v ← absent
    return (k, v) :: (← flowEntries false fuel)

end

/-! ## Documents -/

/-- The handles that need no directive. -/
def usualHandles : List (Text × Text) := [(['!'], ['!']), (['!', '!'], Tag.commonStart)]

/-- The directives before a document. -/
def directives : (fuel : Nat) → (versioned : Bool) → (handles : List (Text × Text)) → Parse Unit
  | 0, _, _ => refuse
  | fuel + 1, versioned, handles => do
    match ← peek with
    | some (.directive d) =>
      drop
      match d with
      | .version major _ =>
        if versioned || major ≠ 1 then refuse
        directives fuel true handles
      | .handle name start =>
        if handles.any (·.1 = name) then refuse
        directives fuel versioned ((name, start) :: handles)
      | .other => directives fuel versioned handles
    | _ => modify fun g => { g with handles := handles ++ usualHandles }

/-- The only document of a stream, if it has one. -/
def document : Parse (Option Nat) := do
  let fuel := 4 * (← get).tokens.length + 8
  let content ← match ← peek with
    | none => return none
    | some .documentStart | some (.directive _) =>
      directives fuel false []
      expect .documentStart
      match ← peek with
      | none | some .documentStart | some .documentEnd | some (.directive _) => absent
      | some _ => node true false fuel
    | some _ =>
      modify fun g => { g with handles := usualHandles }
      node true false fuel
  modify fun g => { g with tokens := g.tokens.dropWhile (· = .documentEnd) }
  if (← peek).isSome then refuse
  return some content

end Parse

/-- Reads the document that tokens make up, if there is one. -/
def Document.ofTokens (tokens : Tokens) : Except Refusal (Option Document) :=
  match Parse.document.run ⟨tokens.list, tokens.fault, [], [], #[]⟩ with
  | .ok (root, g) => .ok (root.map fun i => ⟨g.nodes, i⟩)
  | .error e => .error e

end StyleBuild.Yaml
