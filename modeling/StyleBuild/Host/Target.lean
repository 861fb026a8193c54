import StyleBuild.Path.Basic

/-!
# Build targets

A target is a source path with data.  Its content is a copy of the data that is only there after
the target was loaded; whoever reads it before that made a mistake.  A target whose storage fails
keeps the text of the failure and can never be loaded from it.

`Target.write` appends to the data and makes the content equal to it.
-/

namespace StyleBuild

/-- One file of the build. -/
structure Target where
  path : Text
  data : Bytes
  /-- Such a target is there to be imported, never to be compiled on its own. -/
  includeOnly : Bool
  /-- The data as it was when the target was loaded or last written. -/
  content : Option Bytes
  /-- What loading fails with, if it does. -/
  loadFailure : Option Text
  deriving DecidableEq, Repr

namespace Target

/-- A target that was not loaded yet. -/
def fresh (path : Text) (data : Bytes) (includeOnly : Bool) : Target :=
  ⟨path, data, includeOnly, none, none⟩

/-- The target that replaces its sources: empty, and loaded. -/
def output (path : Text) : Target := ⟨path, [], false, some [], none⟩

/-- The last segment of the path. -/
def name (t : Target) : Text := Path.name t.path

def isLoaded (t : Target) : Bool := t.content.isSome

/-- Takes the data as content, unless there is content already. -/
def load (t : Target) : Target :=
  if t.content = none then { t with content := some t.data } else t

/-- Appends to the data. -/
def write (t : Target) (data : Bytes) : Target :=
  { t with data := t.data ++ data, content := some (t.data ++ data) }

theorem path_load (t : Target) : t.load.path = t.path := by
  unfold load; split <;> rfl

theorem data_load (t : Target) : t.load.data = t.data := by
  unfold load; split <;> rfl

end Target

end StyleBuild
