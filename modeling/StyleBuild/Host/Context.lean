import StyleBuild.Table
import StyleBuild.Host.Graph
import StyleBuild.Host.Target

/-!
# The build context

The host keeps its targets in a table by source path, together with the dependency graph.  Outputs
replace their sources in that table, so after a pass it holds exactly the build artifacts that
survive.

* `resolveOutput` takes sources out and may put an empty output in.
* `remove` takes targets out and may sever their edges in the graph.
-/

namespace StyleBuild

/-- The targets of the host by source path, and what depends on what. -/
structure Context where
  targets : Table Target
  graph : Graph

namespace Context

/-- The context without targets. -/
def empty : Context := ⟨Table.empty, Graph.empty⟩

/-- Puts a target into the table under its path. -/
def add (c : Context) (t : Target) : Context :=
  { c with targets := c.targets.insert t.path t }

/-- The context with the given targets, added in order. -/
def ofTargets (ts : List Target) : Context := ts.foldl add empty

def get? (c : Context) (path : Text) : Option Target := c.targets.find? path

/-- Changes the target at a path, if there is one. -/
def adjust (c : Context) (path : Text) (f : Target → Target) : Context :=
  { c with targets := c.targets.adjust path f }

/-- Takes the targets at the given paths out of the table. -/
def drop (c : Context) (paths : List Text) : Context :=
  { c with targets := paths.foldl Table.erase c.targets }

/-- Replaces the sources by an empty output at `path`, or just removes them. -/
def resolveOutput (c : Context) (path : Option Text) (sources : List Text) : Context :=
  match path with
  | some path => (c.drop sources).add (Target.output path)
  | none => c.drop sources

/-- Removes the edges that touch one of the paths. -/
def sever (c : Context) (paths : List Text) : Context :=
  { c with graph := paths.foldl Graph.removeNode c.graph }

/-- Removes targets and, if asked to, their edges. -/
def remove (c : Context) (paths : List Text) (severEdges : Bool) : Context :=
  if severEdges then (c.drop paths).sever paths else c.drop paths

end Context

end StyleBuild
