import StyleBuild.Settings.Reader
import StyleBuild.Yaml.Document

/-!
# Settings files

A settings file is a YAML document that binds the settings by name.  A file that says nothing, be it
because it is blank or because its document is empty, gives the default settings.

Why a file is no document is not part of the message; where the reading broke down on a value that
no number or date can be made of, that fault is passed on.
-/

namespace StyleBuild.Settings

/-- Every line end counts as a line feed. -/
def normalLineEnds : Text → Text
  | '\r' :: '\n' :: r => '\n' :: normalLineEnds r
  | '\r' :: r => '\n' :: normalLineEnds r
  | c :: r => c :: normalLineEnds r
  | [] => []

/-- A complaint about the file as a whole. -/
def fileProblem (before path after : Text) : Fault :=
  .problem (.settings (before ++ path ++ after) [])

/-- How deep settings are looked at: a file has fields, these have entries, and an entry has to be a
scalar. -/
def depth : Nat := 3

/-- The raw settings in the text of a file. -/
def rawOfText (path : Text) (t : Text) : Except Fault Value :=
  if t.all CharClass.isBlank then .ok (.map [])
  else match Yaml.ofText depth t with
    | .ok none => .ok (.map [])
    | .ok (some v) => .ok (if v.isBlank then .map [] else v)
    | .error .malformed => .error (fileProblem "Cannot parse settings file ".toList path [])
    | .error (.fault e) => .error e

/-- Reads a settings file, which has no content if it does not exist. -/
def ofFile (path : Text) (content : Option Bytes) : Except Fault Settings :=
  match content with
  | none => .error (fileProblem "Settings file not found: ".toList path [])
  | some bytes =>
    match Utf8.decode bytes with
    | .error e => .error (.undecodable e)
    | .ok t =>
      match rawOfText path (normalLineEnds t) with
      | .error e => .error e
      | .ok (.map entries) => ofValue (.map entries)
      | .ok _ => .error (fileProblem "Settings file ".toList path " must contain a mapping".toList)

end StyleBuild.Settings
