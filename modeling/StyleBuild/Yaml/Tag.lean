import StyleBuild.Text.CharClass

/-!
# Tags

The tag of a node says how it is read.  A plain scalar without a tag gets one by its form
(`Tag.ofPlain`): the words for null and the truth values, the five forms of a whole number, the
forms of a number with a fraction, and dates.  A form is tested from the front, each function
giving what is left of the text.
-/

namespace StyleBuild.Yaml

/-- How a node is read. -/
inductive Tag
  | null
  | bool
  | int
  | float
  | binary
  | timestamp
  | orderedMap
  | pairs
  | set
  | str
  | seq
  | map
  /-- A key whose value is merged into the mapping. -/
  | merge
  /-- A key for the value of a mapping that is read as a scalar. -/
  | value
  /-- A tag that nothing can be read as. -/
  | other
  deriving DecidableEq, Repr

namespace Tag

/-- What the tags of YAML begin with. -/
def commonStart : Text := "tag:yaml.org,2002:".toList

/-- The tags that have a meaning, by their names. -/
def names : List (Text × Tag) :=
  [("null".toList, null), ("bool".toList, bool), ("int".toList, int), ("float".toList, float),
    ("binary".toList, binary), ("timestamp".toList, timestamp), ("omap".toList, orderedMap),
    ("pairs".toList, pairs), ("set".toList, set), ("str".toList, str), ("seq".toList, seq),
    ("map".toList, map), ("merge".toList, merge), ("value".toList, value)]

/-- A tag that was written out. -/
def ofText (t : Text) : Tag :=
  match Text.after? commonStart t with
  | none => other
  | some name => ((names.find? (·.1 = name)).map (·.2)).getD other

/-! ## Forms -/

def nullWords : List Text := ["~".toList, "null".toList, "Null".toList, "NULL".toList, []]

def trueWords : List Text :=
  ["yes".toList, "Yes".toList, "YES".toList, "true".toList, "True".toList, "TRUE".toList,
    "on".toList, "On".toList, "ON".toList]

def falseWords : List Text :=
  ["no".toList, "No".toList, "NO".toList, "false".toList, "False".toList, "FALSE".toList,
    "off".toList, "Off".toList, "OFF".toList]

def isDigit (c : Char) : Bool := '0' ≤ c && c ≤ '9'

/-- A digit or an underscore, which may stand between digits. -/
def isDigitPart (c : Char) : Bool := isDigit c || c = '_'

def isSign (c : Char) : Bool := c = '+' || c = '-'

def dropSign : Text → Text
  | c :: r => if isSign c then r else c :: r
  | [] => []

/-- Past digits and underscores that begin with a digit. -/
def digits? : Text → Option Text
  | c :: r => if isDigit c then some (r.dropWhile isDigitPart) else none
  | [] => none

/-- Whether a text is a first character of one class and others of another. -/
def isMade (first other : Char → Bool) : Text → Bool
  | c :: r => first c && r.all other
  | [] => false

/-- Past one or more parts below sixty, a colon before each. -/
def sixtieths? : Text → Option Text
  | ':' :: a :: b :: r =>
    if isDigit a && a ≤ '5' && isDigit b then some ((sixtieths? r).getD r)
    else if isDigit a then some ((sixtieths? (b :: r)).getD (b :: r))
    else none
  | [':', a] => if isDigit a then some [] else none
  | _ => none

/-- Whether a text is nothing or an exponent, whose sign is written. -/
def isExponent : Text → Bool
  | [] => true
  | e :: sign :: r => (e = 'e' || e = 'E') && isSign sign && isMade isDigit isDigit r
  | _ => false

def isFloat (t : Text) : Bool :=
  let unsigned := dropSign t
  let plain := match digits? unsigned with
    | some ('.' :: r) => isExponent (r.dropWhile isDigitPart)
    | _ => false
  let pointFirst := match t with
    | '.' :: r => match digits? r with
      | some r => isExponent r
      | none => false
    | _ => false
  let sexagesimal := match (digits? unsigned).bind sixtieths? with
    | some ('.' :: r) => r.all isDigitPart
    | _ => false
  let infinite := [".inf".toList, ".Inf".toList, ".INF".toList].contains unsigned
  let notNumber := [".nan".toList, ".NaN".toList, ".NAN".toList].contains t
  plain || pointFirst || sexagesimal || infinite || notNumber

def isHexPart (c : Char) : Bool :=
  isDigitPart c || ('a' ≤ c && c ≤ 'f') || ('A' ≤ c && c ≤ 'F')

def isInt (t : Text) : Bool :=
  match dropSign t with
  | ['0'] => true
  | '0' :: 'b' :: r => r ≠ [] && r.all fun c => c = '0' || c = '1' || c = '_'
  | '0' :: 'x' :: r => r ≠ [] && r.all isHexPart
  | '0' :: r => r.all fun c => ('0' ≤ c && c ≤ '7') || c = '_'
  | c :: r =>
    isDigit c && (r.all isDigitPart || sixtieths? (r.dropWhile isDigitPart) = some [])
  | [] => false

/-! ## Dates -/

/-- A date with what else was written of a time.  The parts are texts of digits. -/
structure Stamp where
  year : Text
  month : Text
  day : Text
  /-- Hour, minute, second and fraction. -/
  time : Option (Text × Text × Text × Text)
  /-- The sign, hour and minute of an offset; no sign for universal time. -/
  zone : Option (Option Char × Text × Text)

/-- Takes between `least` and `most` digits. -/
def someDigits? (least most : Nat) (t : Text) : Option (Text × Text) :=
  let ds := (t.take most).takeWhile isDigit
  if least ≤ ds.length then some (ds, t.drop ds.length) else none

def isInlineBlank (c : Char) : Bool := c = ' ' || c = '\t'

/-- The zone at the end of a date. -/
def zone? (t : Text) : Option (Option (Option Char × Text × Text)) :=
  match t with
  | [] => some none
  | _ =>
    match t.dropWhile isInlineBlank with
    | ['Z'] => some (some (none, [], []))
    | c :: r =>
      if isSign c then
        (someDigits? 1 2 r).bind fun (hour, r) =>
          match r with
          | [] => some (some (some c, hour, []))
          | ':' :: r =>
            match someDigits? 2 2 r with
            | some (minute, []) => some (some (some c, hour, minute))
            | _ => none
          | _ => none
      else none
    | [] => none

/-- The time of a date, after what separates the two. -/
def time? (t : Text) :
    Option ((Text × Text × Text × Text) × Option (Option Char × Text × Text)) := do
  let (hour, t) ← someDigits? 1 2 t
  let t ← Text.after? [':'] t
  let (minute, t) ← someDigits? 2 2 t
  let t ← Text.after? [':'] t
  let (second, t) ← someDigits? 2 2 t
  let (fraction, t) := match t with
    | '.' :: r => (r.takeWhile isDigit, r.dropWhile isDigit)
    | _ => ([], t)
  return ((hour, minute, second, fraction), ← zone? t)

/-- Reads a date. -/
def stamp? (t : Text) : Option Stamp := do
  let (year, t) ← someDigits? 4 4 t
  let t ← Text.after? ['-'] t
  let (month, t) ← someDigits? 1 2 t
  let t ← Text.after? ['-'] t
  let (day, t) ← someDigits? 1 2 t
  match t with
  | [] => return ⟨year, month, day, none, none⟩
  | c :: r =>
    let (time, zone) ←
      if c = 'T' || c = 't' then time? r
      else if isInlineBlank c then time? (r.dropWhile isInlineBlank)
      else none
    return ⟨year, month, day, some time, zone⟩

/-- Whether a text has the form of a date: without a time, month and day have two digits. -/
def isStamp (t : Text) : Bool :=
  match stamp? t with
  | some s => s.time.isSome || (s.month.length = 2 && s.day.length = 2)
  | none => false

/-- A text without one line end at its end, which no form minds unless nothing is before it. -/
def beforeBreak (t : Text) : Text :=
  if t.getLast? = some '\n' && t ≠ ['\n'] then t.dropLast else t

/-- The tag of a text that has a form. -/
def ofForm (t : Text) : Tag :=
  if trueWords.contains t || falseWords.contains t then bool
  else if isFloat t then float
  else if isInt t then int
  else if t = ['<', '<'] then merge
  else if nullWords.contains t then null
  else if isStamp t then timestamp
  else if t = ['='] then value
  else if t = ['!'] || t = ['&'] || t = ['*'] then other
  else str

/-- The tag of a plain scalar. -/
def ofPlain (t : Text) : Tag := ofForm (beforeBreak t)

end Tag

end StyleBuild.Yaml
