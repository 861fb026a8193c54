import StyleBuild.Compile.Dialogue
import StyleBuild.Log.Level

/-!
# The journal of a pass

What a pass does that can be seen from outside, in order: the messages it logs, the requests it
makes to the compiler, and the imports it answers.  The three kinds can be looked at separately.
-/

namespace StyleBuild

/-- Something that happened during a pass. -/
inductive Event
  | log (level : Level) (message : Text)
  | request (r : Request)
  /-- An import, with the key that was handed out if it succeeded. -/
  | call (specifier : Text) (previous : Option Text) (key : Option Text)
  deriving DecidableEq, Repr

/-- What happened, in order. -/
abbrev Journal := List Event

namespace Journal

/-- The messages from a severity on. -/
def messages (threshold : Int) (j : Journal) : List (Level × Text) :=
  j.filterMap fun
    | .log level message => if threshold ≤ level.severity then some (level, message) else none
    | _ => none

/-- The requests to the compiler. -/
def requests (j : Journal) : List Request :=
  j.filterMap fun
    | .request r => some r
    | _ => none

/-- The imports. -/
def calls (j : Journal) : List (Text × Option Text × Option Text) :=
  j.filterMap fun
    | .call specifier previous key => some (specifier, previous, key)
    | _ => none

end Journal

end StyleBuild
