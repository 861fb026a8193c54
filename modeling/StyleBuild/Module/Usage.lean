import StyleBuild.Host.Graph

/-!
# Usage

While targets are compiled, it is recorded which modules are imported.  `Usage` is the set of source
paths that were imported at least once; a `Ledger` keeps it together with the dependency graph, so
that an import is recorded in both or in neither (`Ledger.record`).
-/

namespace StyleBuild

/-- The paths that were imported. -/
structure Usage where
  paths : List Text
  deriving DecidableEq, Repr

namespace Usage

/-- Nothing was imported. -/
def empty : Usage := ⟨[]⟩

def wasUsed (u : Usage) (path : Text) : Bool := u.paths.contains path

/-- Adds a path; adding it again changes nothing. -/
def record (u : Usage) (path : Text) : Usage := if u.wasUsed path then u else ⟨u.paths ++ [path]⟩

/-- How many paths were imported. -/
def size (u : Usage) : Nat := u.paths.length

/-- Splits a list into what was imported and what was not, by the path of an element. -/
def partition {α : Type} (u : Usage) (path : α → Text) (as : List α) : List α × List α :=
  (as.filter fun a => u.wasUsed (path a), as.filter fun a => !u.wasUsed (path a))

theorem wasUsed_record (u : Usage) (path other : Text) :
    (u.record path).wasUsed other = (u.wasUsed other || decide (other = path)) := by
  unfold record
  split
  · next h =>
    by_cases eq : other = path
    · simp [eq, h]
    · simp [eq]
  · simp [wasUsed]

end Usage

/-- What was imported, and by whom. -/
structure Ledger where
  usage : Usage
  graph : Graph
  deriving DecidableEq, Repr

namespace Ledger

/-- Records that a consumer imported a dependency. -/
def record (l : Ledger) (consumer dependency : Text) : Ledger :=
  ⟨l.usage.record dependency, l.graph.add ⟨consumer, dependency⟩⟩

end Ledger

end StyleBuild
