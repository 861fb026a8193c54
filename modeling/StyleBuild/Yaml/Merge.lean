import StyleBuild.Yaml.Node
import StyleBuild.Yaml.Token

/-!
# Merge keys

A mapping takes over the entries of the mappings under its merge keys (`flatten`).  They come before
its own entries, which therefore win, and of several mappings under one key the first one comes
last.

The nodes themselves are changed, since a mapping that was flattened can be merged again elsewhere.
A merge key is taken out before the mappings under it are looked at, so that a mapping may even be
merged into itself.
-/

namespace StyleBuild.Yaml

/-- A step that changes the nodes of a document. -/
abbrev Merging := StateT Nodes (Except Refusal)

namespace Merging

/-- The entries before the first merge key, the value of that key, and the entries after it. -/
def cut? (nodes : Nodes) : Entries → Option (Entries × Nat × Entries)
  | [] => none
  | (k, v) :: rest =>
    if nodes.hasTag .merge k then some ([], v, rest)
    else (cut? nodes rest).map fun (before, merged, after) => ((k, v) :: before, merged, after)

/-- The entries that a merge key brings in, given how those of a mapping are found. -/
def broughtIn (entriesOf : Nat → Merging Entries) (value : Nat) : Merging Entries := do
  match (← get).content? value with
  | some (.mapping _) => entriesOf value
  | some (.sequence items) => return (← items.mapM entriesOf).reverse.flatten
  | _ => throw .malformed

/-- A key that stands for the value of the mapping is from now on a text. -/
def settleKey (nodes : Nodes) (k : Nat) : Nodes :=
  if nodes.hasTag .value k then nodes.setTag k .str else nodes

/-- Gives the entries of a mapping once all its merge keys are resolved; `merged` are those that
earlier merge keys brought in. -/
def flattenAfter (i : Nat) (merged : Entries) : (fuel : Nat) → Merging Entries
  | 0 => throw .malformed
  | fuel + 1 => do
    let nodes ← get
    match nodes.entries? i with
    | none => throw .malformed
    | some es =>
      match cut? nodes es with
      | none =>
        let all := merged ++ es
        set ((es.foldl (fun nodes e => settleKey nodes e.1) nodes).setContent i (.mapping all))
        return all
      | some (before, value, after) =>
        set (nodes.setContent i (.mapping (before ++ after)))
        let more ← broughtIn (fun j => flattenAfter j [] fuel) value
        flattenAfter i (merged ++ more) fuel

/-- How many merge keys a document has. -/
def count (nodes : Nodes) : Nat :=
  nodes.foldl (fun n node => match node.content with
    | .mapping es => n + es.countP fun e => nodes.hasTag .merge e.1
    | _ => n) 0

/-- Resolves the merge keys of a mapping, in a document that has had `count` of them.  Each step
takes one out, and none comes back. -/
def flatten (count i : Nat) : Merging Entries := flattenAfter i [] (count + 1)

end Merging

end StyleBuild.Yaml
