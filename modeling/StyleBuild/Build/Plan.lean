import StyleBuild.Host.Context
import StyleBuild.Module.Importer

/-!
# What a pass is going to do

The candidates of a pass are the targets that are stylesheets by their name.  Each candidate is
either rendered or possibly pruned: include-only targets and those that the target filter leaves out
are only there to be imported.
-/

namespace StyleBuild

namespace Settings

/-- Whether a target is a stylesheet. -/
def isCandidate (s : Settings) (t : Target) : Bool := s.candidates.search t.name

/-- Whether the search of a target's name has no answer. -/
def isUnclear (s : Settings) (t : Target) : Bool := s.candidates.tears t.name

/-- Whether the target filter is asked about a candidate and has no answer. -/
def isUnfiltered (s : Settings) (t : Target) : Bool := !t.includeOnly && s.filterTears t.path

/-- Whether a candidate is compiled on its own. -/
def isRendered (s : Settings) (t : Target) : Bool := !t.includeOnly && s.isFilteredIn t.path

/-- The path of what a target is compiled to. -/
def outputPath (s : Settings) (path : Text) : Text :=
  match s.rename with
  | none | some [] => path
  | some suffix => Path.stem path ++ suffix

/-- Whether the target filter allows a path to be compiled, if it has an answer. -/
def allows (s : Settings) (path : Text) : Except Fault Bool :=
  if s.filterTears path then .error .tornMatch else .ok (s.isFilteredIn path)

/-- The candidates of a context, in its order. -/
def selectCandidates (s : Settings) (c : Context) : List Target :=
  c.targets.values.filter s.isCandidate

/-- The candidates to render, and those to possibly prune. -/
def partitionTargets (s : Settings) (candidates : List Target) : List Target × List Target :=
  (candidates.filter s.isRendered, candidates.filter fun t => !s.isRendered t)

/-- The candidates, if each search of a name has an answer. -/
def candidates? (s : Settings) (c : Context) : Except Fault (List Target) :=
  if c.targets.values.any s.isUnclear then .error .tornMatch else .ok (s.selectCandidates c)

/-- The two kinds of candidates, if the target filter has an answer for each. -/
def partition? (s : Settings) (candidates : List Target) :
    Except Fault (List Target × List Target) :=
  if candidates.any s.isUnfiltered then .error .tornMatch else .ok (s.partitionTargets candidates)

end Settings

end StyleBuild
