import StyleBuild.Text.Basic

/-!
# The dependency graph

A set of edges from a consumer to what it imports.  The edges are kept in the order in which they
were first recorded, but only membership matters: `mem_add` and `mem_removeNode` describe the two
operations through it.
-/

namespace StyleBuild

/-- A consumer and something it depends on. -/
structure Edge where
  consumer : Text
  dependency : Text
  deriving DecidableEq, Repr

namespace Edge

/-- Whether a path is one of the two ends. -/
def touches (e : Edge) (path : Text) : Bool := e.consumer = path || e.dependency = path

/-- Order by consumer, then by dependency. -/
def notAfter (e f : Edge) : Bool :=
  if e.consumer = f.consumer then Text.notAfter e.dependency f.dependency
  else Text.notAfter e.consumer f.consumer

end Edge

/-- A finite set of edges. -/
structure Graph where
  edges : List Edge
  deriving DecidableEq, Repr

namespace Graph

/-- The graph without edges. -/
def empty : Graph := ⟨[]⟩

instance : Membership Edge Graph := ⟨fun g e => e ∈ g.edges⟩

instance (e : Edge) (g : Graph) : Decidable (e ∈ g) :=
  inferInstanceAs (Decidable (e ∈ g.edges))

/-- Adds an edge; adding it again changes nothing. -/
def add (g : Graph) (e : Edge) : Graph := if e ∈ g then g else ⟨g.edges ++ [e]⟩

/-- Removes the edges that touch a path. -/
def removeNode (g : Graph) (path : Text) : Graph := ⟨g.edges.filter fun e => !e.touches path⟩

/-- What a consumer depends on, in the order of code points. -/
def dependenciesOf (g : Graph) (consumer : Text) : List Text :=
  Text.sorted ((g.edges.filter (·.consumer = consumer)).map Edge.dependency)

/-- Whether some edge touches a path. -/
def hasNode (g : Graph) (path : Text) : Bool := g.edges.any (·.touches path)

/-- The edges in the order of their code points. -/
def sorted (g : Graph) : List Edge := g.edges.mergeSort Edge.notAfter

theorem mem_add {g : Graph} {e f : Edge} : f ∈ g.add e ↔ f ∈ g ∨ f = e := by
  unfold add
  split
  · next h => exact ⟨.inl, fun hf => hf.elim id fun eq => eq ▸ h⟩
  · exact List.mem_append.trans (or_congr_right List.mem_singleton)

theorem mem_removeNode {g : Graph} {path : Text} {e : Edge} :
    e ∈ g.removeNode path ↔ e ∈ g ∧ e.consumer ≠ path ∧ e.dependency ≠ path := by
  refine List.mem_filter.trans (and_congr_right fun _ => ?_)
  simp [Edge.touches]

end Graph

end StyleBuild
