import StyleBuild.Path.Swap
import StyleBuild.Settings.Basic

/-!
# Module keys

Every stylesheet is a module, and other stylesheets import it by its key: its path relative to the
module base, without the extension.  Separators in front never matter, neither before nor after the
base is removed.
-/

namespace StyleBuild.Settings

/-- A path relative to the module base; a path outside the base stays as it is. -/
def modulePath (s : Settings) (path : Text) : Text :=
  let path := Path.stripFront path
  Path.stripFront (if s.moduleBase = [] then path else Path.anchored path s.moduleBase [])

/-- The key of the module at a path. -/
def moduleKey (s : Settings) (path : Text) : Text := Path.withoutExtension (s.modulePath path)

end StyleBuild.Settings
