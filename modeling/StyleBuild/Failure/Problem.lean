import StyleBuild.Text.Basic

/-!
# What can be wrong with a build

A `Problem` is a mistake that the build step itself finds and words: in the settings, among the
module keys, in an import, or in a stylesheet.  What the compiler says about a stylesheet is a
`Diagnosis`; it has a location only when both the file and the line are known.

An import of an indented module is a problem of its own, but it also reads as a diagnosis
(`Problem.diagnosis?`), since the compiler would have refused the module too.
-/

namespace StyleBuild

/-- What a compiler found wrong, and where. -/
structure Diagnosis where
  text : Text
  file : Option Text
  line : Option Int
  /-- The source path of the target that was being compiled. -/
  target : Option Text
  deriving DecidableEq, Repr

namespace Diagnosis

/-- A diagnosis without a position. -/
def plain (text : Text) : Diagnosis := ⟨text, none, none, none⟩

def hasLocation (d : Diagnosis) : Bool := d.file.isSome && d.line.isSome

/-- The text, followed by the location if there is one. -/
def message (d : Diagnosis) : Text :=
  match d.file, d.line with
  | some file, some line => d.text ++ " in ".toList ++ file ++ ':' :: Text.ofInt line
  | _, _ => d.text

/-- The same diagnosis, attributed to a target. -/
def forTarget (d : Diagnosis) (target : Text) : Diagnosis := { d with target := some target }

end Diagnosis

/-- A mistake that stops a build. -/
inductive Problem
  | general (text : Text)
  /-- Settings that cannot be used: what they fail as, and each thing that is wrong. -/
  | settings (summary : Text) (details : List Text)
  /-- Two targets would be the same module. -/
  | collision (key first second : Text)
  /-- An import of a module that no target provides. -/
  | missing (specifier key : Text) (consumer : Option Text)
  /-- A stylesheet that the compiler refused. -/
  | compiler (diagnosis : Diagnosis)
  /-- An import of a module in the indented syntax. -/
  | indented (specifier path : Text) (consumer : Option Text)
  deriving DecidableEq, Repr

namespace Problem

/-- Puts a text between single quotes, as it is. -/
def named (t : Text) : Text := '\'' :: t ++ ['\'']

/-- What a compiler would have said, for the problems that are about a stylesheet. -/
def diagnosis? : Problem → Option Diagnosis
  | .compiler d => some d
  | .indented specifier path consumer => some {
      text := "Cannot import indented-syntax module ".toList ++ named specifier ++ " (".toList ++
        named path ++ "); imported stylesheets must use SCSS syntax".toList
      file := none
      line := none
      target := consumer }
  | _ => none

/-- The wording of a problem. -/
def message : Problem → Text
  | .general text => text
  | .settings summary details => summary ++ details.flatMap fun d => "\n  - ".toList ++ d
  | .collision key first second =>
    "Module key ".toList ++ named key ++ " is ambiguous: ".toList ++ named first ++
      " and ".toList ++ named second ++ " both resolve to it".toList
  | .missing specifier key consumer =>
    "Module ".toList ++ named specifier ++ " (".toList ++ named key ++ ") does not exist".toList ++
      match consumer with
      | none | some [] => []
      | some consumer => " (imported from ".toList ++ named consumer ++ ")".toList
  | .compiler d => d.message
  | .indented specifier path consumer =>
    ((indented specifier path consumer).diagnosis?.map Diagnosis.message).getD []

/-- Attributes a problem with a stylesheet to a target; it keeps its text and location. -/
def forTarget? (p : Problem) (target : Text) : Option Problem :=
  p.diagnosis?.map fun d => .compiler (d.forTarget target)

end Problem

end StyleBuild
