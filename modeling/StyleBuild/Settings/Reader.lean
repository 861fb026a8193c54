import StyleBuild.Number.Whole
import StyleBuild.Settings.Tables
import StyleBuild.Settings.Value

/-!
# Reading settings

Raw settings are read field by field.  What is wrong with one field does not keep the others from
being read, so that all complaints are reported together, in the order of the fields; only a `stop`
ends the reading at once.  Every field has a name in camel case and may have one with underscores;
the first one counts if both are there.  Names that are none of these are ignored.

A field takes what can only be meant in one way: a number for a flag, a numeral for a number, bytes
for a text.
-/

namespace StyleBuild

/-- The outcome of reading a part of the settings. -/
inductive Reading (α : Type)
  | ok (a : α)
  | bad (complaints : List Complaint)
  /-- Something that no complaint can be made of. -/
  | stop (fault : Fault)

namespace Reading

variable {α β : Type}

def map (f : α → β) : Reading α → Reading β
  | ok a => ok (f a)
  | bad cs => bad cs
  | stop e => stop e

/-- Reads both parts, whatever the first one is: complaints add up. -/
def both (x : Reading (α → β)) (y : Reading α) : Reading β :=
  match x, y with
  | stop e, _ => stop e
  | ok f, y => y.map f
  | bad cs, ok _ => bad cs
  | bad cs, bad ds => bad (cs ++ ds)
  | bad _, stop e => stop e

instance : Applicative Reading where
  pure := ok
  map := map
  seq x y := both x (y ())

/-- Goes on with what was read. -/
def andThen (x : Reading α) (f : α → Reading β) : Reading β :=
  match x with
  | ok a => f a
  | bad cs => bad cs
  | stop e => stop e

/-- One complaint. -/
def complain (place : List Text) (reason : Reason) : Reading α := bad [⟨place, reason⟩]

end Reading

namespace Settings

open Reading

/-! ## Texts -/

/-- A text, or bytes that are one. -/
def readText (place : List Text) : Value → Reading Text
  | .scalar (.text t) => ok t
  | .scalar (.bytes b) =>
    match Utf8.decode b with
    | .ok t => ok t
    | .error _ => complain place .undecodableText
  | _ => complain place .notText

/-- A directory, without separators at its ends. -/
def readDirectory (place : List Text) (v : Value) : Reading Text :=
  (readText place v).map Path.strip

/-! ## Substitution tables -/

/-- Reads the entries of a table one after the other; both sides of an entry are checked. -/
def readEntries (place : List Text) : List (Scalar × Value) → Reading (List (Text × Text))
  | [] => ok []
  | (k, v) :: rest =>
    let here := place ++ [k.shown]
    (fun k v rest => (k, v) :: rest) <$> readText (here ++ ["[key]".toList]) (.scalar k)
      <*> readText here v <*> readEntries place rest

/-- A substitution table with the given name. -/
def readTable (table : Text) (place : List Text) : Value → Reading (Table Text)
  | .map entries =>
    (readEntries place entries).andThen fun es =>
      match normalise (Table.ofList es) with
      | .ok t => ok t
      | .error flaw => complain place (.badTable table flaw)
  | _ => complain place .notMapping

/-! ## Flags -/

/-- Half as many numbers as 64 bits can tell apart. -/
def longBound : Int := Int.ofNat (Nat.pow 2 63)

/-- Whether a whole number is one that 64 bits can hold. -/
def isLong (n : Int) : Bool := -longBound ≤ n && n < longBound

def flagWords : List (Text × Bool) :=
  [("0".toList, false), ("off".toList, false), ("f".toList, false), ("false".toList, false),
    ("n".toList, false), ("no".toList, false), ("1".toList, true), ("on".toList, true),
    ("t".toList, true), ("true".toList, true), ("y".toList, true), ("yes".toList, true)]

/-- A flag in words, in any case. -/
def readFlagWord (place : List Text) (t : Text) : Reading Bool :=
  match flagWords.find? fun w => w.1 = LetterCase.lowerAsciiText t with
  | some (_, b) => ok b
  | none => complain place .unknownFlag

/-- A flag as a number. -/
def readFlagNumber (place : List Text) (n : Int) : Reading Bool :=
  if n = 0 then ok false
  else if n = 1 then ok true
  else if isLong n then complain place .unknownFlag else complain place .notFlag

def readFlag (place : List Text) : Value → Reading Bool
  | .scalar (.bool b) => ok b
  | .scalar (.int n) => readFlagNumber place n
  | .scalar (.float x) =>
    match x.toInt? with
    | some n => if n = -longBound then complain place .notFlag else readFlagNumber place n
    | none => complain place .notFlag
  | .scalar (.text t) => readFlagWord place t
  | .scalar (.bytes b) =>
    match Utf8.decode b with
    | .ok t => readFlagWord place t
    | .error _ => complain place .unknownFlag
  | _ => complain place .notFlag

/-! ## Patterns -/

def readPattern (place : List Text) : Value → Reading Pattern
  | .scalar (.text t) =>
    match Pattern.ofText t with
    | .ok p => ok p
    | .error .malformed => complain place .malformedPattern
    | .error .tooManyRounds => stop .overflow
    | .error (.tooManyDigits count) => complain place (.patternDigits count)
    | .error .incompatibleModes => complain place .patternModes
    | .error .tooWide => stop (.crash "invalid SRE code".toList)
  | .scalar (.bytes _) => complain place .notPatternText
  | _ => complain place .notPattern

/-- Patterns at the places `index`, `index + 1`, … -/
def readPatterns (place : List Text) (index : Nat) : List Value → Reading (List Pattern)
  | [] => ok []
  | v :: rest =>
    List.cons <$> readPattern (place ++ [Text.ofNat index]) v
      <*> readPatterns place (index + 1) rest

def readTargets (place : List Text) : Value → Reading (List Pattern)
  | .list items => readPatterns place 0 items
  | .set items => readPatterns place 0 (items.map .scalar)
  | _ => complain place .notSequence

/-! ## Suffix and style -/

/-- A suffix begins with a dot. -/
def withDot (t : Text) : Text := if t.head? = some '.' then t else '.' :: t

/-- Nothing, `true` for the usual suffix, or a suffix. -/
def readRename (place : List Text) : Value → Reading (Option Text)
  | .scalar .null => ok none
  | .scalar (.bool true) => ok (some usualSuffix)
  | .scalar (.text t) =>
    let t := Text.trimBoth CharClass.isBlank t
    if t = [] then complain place .badSuffix else ok (some (withDot t))
  | _ => complain place .badSuffix

/-- The name of a style, in any case.  Only ASCII letters matter, since no other letter has a small
form that occurs in one of the names. -/
def readStyle (place : List Text) (v : Value) : Reading OutputStyle :=
  (readText place v).andThen fun t =>
    match OutputStyle.ofName? (LetterCase.lowerAsciiText (Text.trimBoth CharClass.isBlank t)) with
    | some s => ok s
    | none => complain place .unknownStyle

/-! ## Numbers -/

/-- A number of workers is at least one. -/
def atLeastOne (place : List Text) (n : Int) : Reading Nat :=
  if 1 ≤ n then ok n.toNat else complain place .belowOne

def readNumeral (place : List Text) (t : Text) : Reading Nat :=
  match Whole.ofText t with
  | .ok n => atLeastOne place n
  | .error .malformed => complain place .unreadableWhole
  | .error .tooLong => complain place .tooLongWhole

def readWorkers (place : List Text) : Value → Reading Nat
  | .scalar (.bool b) => atLeastOne place (if b then 1 else 0)
  | .scalar (.int n) => atLeastOne place n
  | .scalar (.float .nan) => complain place .notFinite
  | .scalar (.float (.infinite _)) => complain place .notFinite
  | .scalar (.float x) =>
    match x.toInt? with
    | some n =>
      if isLong n && n ≠ -longBound then atLeastOne place n else complain place .tooLongWhole
    | none => complain place .fraction
  | .scalar (.text t) => readNumeral place t
  | .scalar (.bytes b) =>
    match Utf8.decode b with
    | .ok t => readNumeral place t
    | .error _ => complain place .unreadableWhole
  | _ => complain place .notWhole

/-! ## All fields -/

/-- The field with the first of the names that is there, or its default. -/
def field {α : Type} (entries : List (Scalar × Value)) (names : List Text) (absent : α)
    (read : List Text → Value → Reading α) : Reading α :=
  match names.findSome? fun name => (Value.find? name entries).map (name, ·) with
  | some (name, v) => read [name] v
  | none => ok absent

/-- Reads the fields in their order. -/
def readFields (entries : List (Scalar × Value)) : Reading Settings :=
  let field {α : Type} := @field α entries
  Settings.mk
    <$> field ["moduleBase".toList, "module_base".toList] default.moduleBase readDirectory
    <*> field ["alias".toList] default.aliases (readTable "alias".toList)
    <*> field ["replace".toList] default.replace (readTable "replace".toList)
    <*> field ["resolveRelativePaths".toList, "resolve_relative_paths".toList]
      default.resolveRelative readFlag
    <*> field ["targets".toList] default.targets readTargets
    <*> field ["rename".toList] default.rename readRename
    <*> field ["match".toList, "candidate_pattern".toList] default.candidates readPattern
    <*> field ["outputStyle".toList, "output_style".toList] default.outputStyle readStyle
    <*> field ["workers".toList] default.workers readWorkers

/-- Reads raw settings; no settings at all are the default ones. -/
def ofValue : Value → Except Fault Settings
  | .scalar .null => .ok default
  | .map entries =>
    match readFields entries with
    | .ok s => .ok s
    | .bad cs => .error (.problem (.settings "Invalid SASS plugin settings".toList
        (cs.map Complaint.message)))
    | .stop e => .error e
  | v => .error (.problem (.settings
      ("Plugin settings must be a mapping, got ".toList ++ v.kind) []))

end Settings

end StyleBuild
