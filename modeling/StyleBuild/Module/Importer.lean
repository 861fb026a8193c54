import StyleBuild.Failure.Basic
import StyleBuild.Module.Registry
import StyleBuild.Module.Specifier
import StyleBuild.Module.Usage

/-!
# Importing

While one target is compiled, the compiler asks an `Importer` for every module that a stylesheet
imports.  It gives the specifier as it was written and the name of the document that contains it:
either the entry document, or a name that the importer gave out with an earlier answer.  So the
importer remembers the names that it has given out; every other name is taken for the entry
document.

An answer is computed from the registry and from this memory alone (`Importer.call`).  What it means
for the ledger that all importers share is part of the reply, and is entered there by
`Reply.enter`; nothing flows back from the ledger into an answer.
-/

namespace StyleBuild

namespace Target

/-- The suffix of names in the indented syntax. -/
def indentedSuffix : Text := ['.', 's', 'a', 's', 's']

/-- Whether a target is written in the indented syntax, which can be compiled but not imported. -/
def isIndented (t : Target) : Bool := indentedSuffix.isSuffixOf t.name

/-- The absolute path under which the compiler knows the entry document. -/
def rootPath (t : Target) : Text := Path.separator :: Path.stripFront t.path

/-- The content, which must have been loaded. -/
def content? (t : Target) : Except Fault Bytes :=
  match t.content with
  | some content => .ok content
  | none => .error (.unloaded t.path)

/-- Loads the target from its storage. -/
def load? (t : Target) : Except Fault Target :=
  match t.loadFailure with
  | some text => .error (.crash text)
  | none => .ok t.load

/-- The target after an attempt to load it.  One whose storage fails stays as it is. -/
def attempted (t : Target) : Target := t.load?.toOption.getD t

/-- The content as text. -/
def text? (t : Target) : Except Fault Text :=
  match t.content? with
  | .ok content => (Utf8.decode content).mapError .undecodable
  | .error e => .error e

end Target

/-- A module that was handed to the compiler: the name for it, which is its key, and its text. -/
structure Source where
  name : Text
  text : Text
  deriving DecidableEq, Repr

/-- Answers the imports of one compilation. -/
structure Importer where
  registry : Registry
  settings : Settings
  /-- The target that is being compiled. -/
  parent : Target

/-- What an importer remembers of its earlier answers. -/
structure Memory where
  /-- The names that were given out. -/
  issued : List Text
  /-- The imports that were refused, in order. -/
  refusals : List Problem
  deriving DecidableEq, Repr

/-- The memory of an importer that was not asked yet. -/
def Memory.empty : Memory := ⟨[], []⟩

/-- An answer, the memory after it, and the target that was imported, if one was found. -/
structure Reply where
  answer : Except Failure Source
  memory : Memory
  imported : Option Target

namespace Importer

/-- The name of the entry document. -/
def rootPath (i : Importer) : Text := i.parent.rootPath

/-- The directory that a document's imports are relative to.  No document has the empty name. -/
def currentDirectory (i : Importer) (memory : Memory) (previous : Option Text) : Text :=
  let entry := i.settings.modulePath (Path.directory i.rootPath)
  match previous with
  | none | some [] => entry
  | some name => if memory.issued.contains name then Path.directory name else entry

/-- The key that an import means. -/
def resolve (i : Importer) (memory : Memory) (specifier : Text) (previous : Option Text) : Text :=
  i.settings.resolveImport specifier (i.currentDirectory memory previous)

/-- Remembers that a name was given out. -/
def issue (memory : Memory) (name : Text) : Memory :=
  if memory.issued.contains name then memory else { memory with issued := memory.issued ++ [name] }

/-- Refuses an import.  The refusal is identified by its place among all refusals. -/
def refuse (memory : Memory) (p : Problem) : Reply where
  answer := .error ⟨⟨.problem p, some memory.refusals.length⟩, []⟩
  memory := { memory with refusals := memory.refusals ++ [p] }
  imported := none

/-- Hands out the target that provides the module with a key. -/
def provide (memory : Memory) (key : Text) (t : Target) : Reply :=
  match t.text? with
  | .ok text => ⟨.ok ⟨key, text⟩, issue memory key, some t⟩
  | .error e => ⟨.error (.ofFault e), memory, some t⟩

/-- Answers one import. -/
def call (i : Importer) (memory : Memory) (specifier : Text) (previous : Option Text) : Reply :=
  let key := i.resolve memory specifier previous
  match i.registry.find? key with
  | none => refuse memory (.missing specifier key (some i.parent.path))
  | some t =>
    if t.isIndented then refuse memory (.indented specifier t.path (some i.parent.path))
    else provide memory key t

end Importer

namespace Reply

/-- Enters what was imported into the ledger. -/
def enter (r : Reply) (parent : Text) (l : Ledger) : Ledger :=
  match r.imported with
  | some t => l.record parent t.path
  | none => l

end Reply

end StyleBuild
