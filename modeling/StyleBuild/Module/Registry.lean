import StyleBuild.Failure.Problem
import StyleBuild.Host.Target
import StyleBuild.Module.Key
import StyleBuild.Table

/-!
# The module registry

The registry binds every module key to the target that provides the module.  Two targets with one
key cannot both be imported, so building the registry stops at the first target whose key is taken.
The registry keeps the targets as they were when it was built: what a module is when it is imported
does not change when its target is compiled and replaced.
-/

namespace StyleBuild

/-- Targets by module key. -/
abbrev Registry := Table Target

namespace Registry

/-- Registers targets one after the other. -/
def addAll (s : Settings) (r : Registry) : List Target → Except Problem Registry
  | [] => .ok r
  | t :: rest =>
    let key := s.moduleKey t.path
    match r.find? key with
    | some taken => .error (.collision key taken.path t.path)
    | none => addAll s (r.insert key t) rest

/-- The registry of the given targets. -/
def build (s : Settings) (targets : List Target) : Except Problem Registry :=
  addAll s Table.empty targets

end Registry

end StyleBuild
