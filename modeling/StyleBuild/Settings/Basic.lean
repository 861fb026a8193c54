import StyleBuild.Pattern.Basic
import StyleBuild.Table

/-!
# Settings

The settings of the build step, after they were checked.  A field that is not given has the value
in `Settings.default`.
-/

namespace StyleBuild

/-- How compiled stylesheets are laid out. -/
inductive OutputStyle
  | nested
  | expanded
  | compact
  | compressed
  deriving DecidableEq, Repr

namespace OutputStyle

def all : List OutputStyle := [nested, expanded, compact, compressed]

def name : OutputStyle → Text
  | nested => "nested".toList
  | expanded => "expanded".toList
  | compact => "compact".toList
  | compressed => "compressed".toList

/-- The style with the given name. -/
def ofName? (t : Text) : Option OutputStyle := all.find? fun s => s.name = t

end OutputStyle

/-- What the user decides about a build. -/
structure Settings where
  /-- The directory that module keys are relative to. -/
  moduleBase : Text
  /-- Prefixes of whole segments, with what replaces them in imports. -/
  aliases : Table Text
  /-- Prefixes of characters, with what replaces them in imports. -/
  replace : Table Text
  /-- Whether `./` and `../` in front of an import have a meaning. -/
  resolveRelative : Bool
  /-- Only targets whose path matches one of these are compiled; all are if there is none. -/
  targets : List Pattern
  /-- The suffix of output paths. -/
  rename : Option Text
  /-- Only targets whose name matches are stylesheets. -/
  candidates : Pattern
  outputStyle : OutputStyle
  /-- How many targets may be compiled at a time. -/
  workers : Nat

namespace Settings

/-- Names that end in `.scss` or `.sass`. -/
def stylesheets : Pattern where
  source := ['\\', '.', 's', '[', 'a', 'c', ']', 's', 's', '$']
  form := {
    root := .ofList [.char (.code 46 false .exact), .char (.code 115 false .exact),
      .char (.set [.code 97, .code 99] false false .exact), .char (.code 115 false .exact),
      .char (.code 115 false .exact), .anchor .finish]
    least := 5
    beginning := .everywhere }
  ofText_source := by rfl

/-- The settings when none are given. -/
def default : Settings where
  moduleBase := []
  aliases := .empty
  replace := .empty
  resolveRelative := true
  targets := []
  rename := none
  candidates := stylesheets
  outputStyle := .nested
  workers := 1

/-- Whether the target filter allows a path to be compiled. -/
def isFilteredIn (s : Settings) (path : Text) : Bool :=
  s.targets.isEmpty || s.targets.any (·.search path)

/-- Whether one of the patterns has no answer for a path before another one has found it. -/
def tearsOn (path : Text) : List Pattern → Bool
  | [] => false
  | p :: rest => p.tears path || (!p.search path && tearsOn path rest)

/-- Whether the target filter has no answer for a path. -/
def filterTears (s : Settings) (path : Text) : Bool := tearsOn path s.targets

/-- The suffix that a plain `true` asks for. -/
def usualSuffix : Text := ['.', 'c', 's', 's']

end Settings

end StyleBuild
