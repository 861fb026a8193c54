import StyleBuild.Number.Digits
import StyleBuild.Text.CharName.From0000
import StyleBuild.Text.CharName.From0600
import StyleBuild.Text.CharName.From1400
import StyleBuild.Text.CharName.From1F00
import StyleBuild.Text.CharName.From2500
import StyleBuild.Text.CharName.From2900
import StyleBuild.Text.CharName.From2E80
import StyleBuild.Text.CharName.FromA800
import StyleBuild.Text.CharName.FromFE00
import StyleBuild.Text.CharName.From11000
import StyleBuild.Text.CharName.From13000
import StyleBuild.Text.CharName.From18800
import StyleBuild.Text.CharName.From1D400
import StyleBuild.Text.CharName.From1F000
import StyleBuild.Text.CharName.From1F650
import StyleBuild.Text.CharName.From20000

/-!
# Names of characters

Every character of Unicode has a name of capital letters, digits, hyphens and spaces, and some have
further ones, such as `LF` for the line feed.  `ofName?` finds a character by a name of it.

Most names are in tables, ordered by code point.  A table consists of rows, and a row of entries
with commas between them.  An entry is what its name adds to the name before it: a digit says how
many words are repeated from there, and the other words follow.  Where the code point is not the
next one, it stands in front, in hexadecimal digits before a colon.

The names of the Hangul syllables and of the ideographs follow rules instead: a syllable is named by
its letters, an ideograph by its code point.  So are three other series.
-/

namespace StyleBuild.CharName

/-! ## Tables -/

/-- All tables. -/
def tables : List (List String) :=
  [
    from0000, from0600, from1400, from1F00, from2500, from2900, from2E80, fromA800,
    fromFE00, from11000, from13000, from18800, from1D400, from1F000, from1F650, from20000
  ]

/-- A code point with the words of its name. -/
structure Named where
  code : Nat
  words : List Text

/-- Reads an entry that comes after another one. -/
def Named.next (before : Named) (entry : Text) : Named :=
  let (code, entry) := match Text.cutFirst ':' entry with
    | (digits, some entry) => (Digits.ofAscii 16 digits, entry)
    | (_, none) => (before.code + 1, entry)
  let (repeated, added) := match entry with
    | c :: r => if CharClass.isAsciiDigit c then (Digits.ofAscii 10 [c], r) else (0, entry)
    | [] => (0, [])
  ⟨code, before.words.take repeated ++ Text.splitOn ' ' added⟩

/-- Looks for a name among entries; `before` is what comes before them. -/
def findEntry? (words : List Text) : (before : Named) → (entries : List Text) → Named ⊕ Nat
  | before, [] => .inl before
  | before, e :: rest =>
    let this := before.next e
    if this.words = words then .inr this.code else findEntry? words this rest

/-- Looks for a name in the rows of a table. -/
def findRow? (words : List Text) : (before : Named) → (rows : List String) → Option Nat
  | _, [] => none
  | before, row :: rest =>
    match findEntry? words before (Text.splitOn ',' row.toList) with
    | .inl last => findRow? words last rest
    | .inr code => some code

/-- The code point with a name that is in a table. -/
def inTables? (name : Text) : Option Nat :=
  tables.findSome? (findRow? (Text.splitOn ' ' name) ⟨0, []⟩)

/-! ## Series -/

/-- The names that end in the code point, by what they begin with. -/
def series : List (Text × CharClass.Ranges) :=
  [
    ("CJK COMPATIBILITY IDEOGRAPH-".toList,
      [(0xF900, 0xFA6D), (0xFA70, 0xFAD9), (0x2F800, 0x2FA1D)]),
    ("KHITAN SMALL SCRIPT CHARACTER-".toList, [(0x18B00, 0x18CD5)]),
    ("NUSHU CHARACTER-".toList, [(0x1B170, 0x1B2FB)])
  ]

/-- A code point as names have it. -/
def shownCode (n : Nat) : Text := (Text.hex 4 n).map Char.toUpper

/-- The code point with a name that is in a series. -/
def inSeries? (name : Text) : Option Nat :=
  series.findSome? fun (start, ranges) => do
    let digits ← Text.after? start name
    let n := Digits.ofAscii 16 digits
    if ranges.has n && shownCode n = digits then some n else none

/-! ## Ideographs -/

/-- The ideographs that are named by their code points. -/
def ideographs : CharClass.Ranges :=
  [
    (0x3400, 0x4DBF), (0x4E00, 0x9FFF), (0x20000, 0x2A6DF), (0x2A700, 0x2B738), (0x2B740, 0x2B81D),
    (0x2B820, 0x2CEA1), (0x2CEB0, 0x2EBE0), (0x30000, 0x3134A)
  ]

def ideographStart : Text := "CJK UNIFIED IDEOGRAPH-".toList

/-- The ideograph with the given digits, four or five of them. -/
def ideograph? (digits : Text) : Option Nat :=
  let n := Digits.ofAscii 16 digits
  let isCode := [4, 5].contains digits.length &&
    digits.all fun c => CharClass.isAsciiDigit c || ('A' ≤ c && c ≤ 'F')
  if isCode && ideographs.has n then some n else none

/-! ## Syllables -/

def syllableStart : Text := "HANGUL SYLLABLE ".toList

/-- The consonants that a syllable can begin with; one of them is silent. -/
def initials : List Text :=
  ["G", "GG", "N", "D", "DD", "R", "M", "B", "BB", "S", "SS", "", "J", "JJ", "C", "K", "T", "P",
    "H"].map String.toList

def vowels : List Text :=
  ["A", "AE", "YA", "YAE", "EO", "E", "YEO", "YE", "O", "WA", "WAE", "OE", "YO", "U", "WEO", "WE",
    "WI", "YU", "EU", "YI", "I"].map String.toList

/-- The consonants that a syllable can end with, if it ends with one. -/
def finals : List Text :=
  ["", "G", "GG", "GS", "N", "NJ", "NH", "D", "L", "LG", "LM", "LB", "LS", "LT", "LP", "LH", "M",
    "B", "BS", "S", "SS", "NG", "J", "C", "K", "T", "P", "H"].map String.toList

/-- The code point of the first syllable. -/
def firstSyllable : Nat := 0xAC00

/-- The letters of a syllable, by their places in the three lists. -/
def syllable? (letters : Text) : Option Nat := do
  let ways := initials.zipIdx.flatMap fun (a, i) => vowels.zipIdx.filterMap fun (b, j) =>
    (Text.after? (a ++ b) letters).bind fun rest => (finals.idxOf? rest).map fun k =>
      (i * vowels.length + j) * finals.length + k
  return firstSyllable + (← ways.head?)

/-! ## All names -/

/-- The character with a name.  Small letters may stand for capital ones, but not in the names of
syllables and ideographs. -/
def ofName? (name : Text) : Option Char :=
  let code? :=
    match Text.after? syllableStart name, Text.after? ideographStart name with
    | some letters, _ => syllable? letters
    | none, some digits => ideograph? digits
    | none, none =>
      let name := name.map Char.toUpper
      (inSeries? name).orElse fun _ => inTables? name
  code?.map Char.ofNat

end StyleBuild.CharName
