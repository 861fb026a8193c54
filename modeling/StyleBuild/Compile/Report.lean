import StyleBuild.Failure.Basic
import StyleBuild.Path.Basic
import StyleBuild.Number.Digits

/-!
# Reports of the engine

The engine reports an error as text: a first line with the message, and somewhere `on line N of F`
or `on line N:C of F`.  `Report.read` finds the first such location and makes a diagnosis of the
first line; a report without a location is kept as a whole.

The engine knows the entry document only as `stdin`.  Where a path for it is given, that path takes
the place of every file of this name.
-/

namespace StyleBuild.Report

/-- Where a report says that the error is. -/
structure Location where
  /-- The digits of the line number. -/
  digits : Text
  file : Text
  deriving DecidableEq, Repr

/-- What comes before the line number. -/
def lineMark : Text := ['o', 'n', ' ', 'l', 'i', 'n', 'e', ' ']

/-- What comes before the file. -/
def fileMark : Text := [' ', 'o', 'f', ' ']

/-- What comes before the message. -/
def errorMark : Text := ['E', 'r', 'r', 'o', 'r', ':', ' ']

/-- The engine's name for the entry document. -/
def entryName : Text := ['s', 't', 'd', 'i', 'n']

/-- The digits in front, if there are any, and what follows them. -/
def digits? (t : Text) : Option (Text × Text) :=
  let ds := t.takeWhile CharClass.isDecimal
  if ds = [] then none else some (ds, t.dropWhile CharClass.isDecimal)

/-- What follows a column in front; the text itself if there is none. -/
def afterColumn (t : Text) : Text :=
  match t with
  | ':' :: r => match digits? r with
    | some (_, rest) => rest
    | none => t
  | _ => t

/-- The location that a text begins with. -/
def locationHere? (t : Text) : Option Location :=
  (Text.after? lineMark t).bind fun t =>
    (digits? t).bind fun (digits, t) =>
      (Text.after? fileMark (afterColumn t)).bind fun t =>
        let file := t.takeWhile fun c => !CharClass.isBlank c
        if file = [] then none else some ⟨digits, file⟩

/-- The first location in a text. -/
def location? : Text → Option Location
  | [] => none
  | c :: r => (locationHere? (c :: r)).or (location? r)

/-- Whether a character ends a line. -/
def isLineEnd (c : Char) : Bool :=
  let n := c.toNat
  (0x0A ≤ n && n ≤ 0x0D) || (0x1C ≤ n && n ≤ 0x1E) || n = 0x85 || n = 0x2028 || n = 0x2029

/-- A text without the blanks at its ends. -/
def trim (t : Text) : Text := Text.trimBoth CharClass.isBlank t

/-- The first line of a text without the blanks around it. -/
def firstLine (t : Text) : Text := (trim t).takeWhile fun c => !isLineEnd c

/-- The message of a report: its first line, without the mark of an error. -/
def message (t : Text) : Text :=
  let line := firstLine t
  trim ((Text.after? errorMark line).getD line)

/-- The file of a location; the entry document is known by its path if that is given. -/
def fileOf (l : Location) (entry : Option Text) : Text :=
  match entry with
  | none | some [] => l.file
  | some path => if Path.name l.file = entryName then path else l.file

/-- Reads a report. -/
def read (t : Text) (entry : Option Text) : Except Fault Diagnosis :=
  match location? t with
  | none => .ok (.plain (trim t))
  | some l =>
    if Digits.limit < l.digits.length then .error (.tooManyDigits l.digits.length)
    else .ok ⟨message t, some (fileOf l entry), some (Digits.ofDecimals l.digits), none⟩

end StyleBuild.Report
