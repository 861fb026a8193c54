import StyleBuild.Number.Digits
import StyleBuild.Text.Utf8
import StyleBuild.Yaml.Cursor

/-!
# Written scalars

The three ways to write a scalar: plain, between quotes, and as a block.  In the first two a line
end is folded to a space, and each empty line after it is kept as a line feed; a block keeps its
lines or folds them by the same rule, where neither of two lines begins with a blank.
-/

namespace StyleBuild.Yaml.Scan

/-- A line end that was read, with the empty lines after it, as text. -/
def folded (first : Text) (others : Text) : Text :=
  if first ≠ ['\n'] then first ++ others
  else if others = [] then [' '] else others

/-! ## Plain scalars -/

/-- Empty lines after a plain scalar's line, and spaces; `none` at the mark of a document. -/
def plainBreaks : (fuel : Nat) → (soFar : Text) → Scan (Option Text)
  | 0, soFar => return some soFar
  | fuel + 1, soFar => do
    match ← peek with
    | some c =>
      if c = ' ' then skip 1; plainBreaks fuel soFar
      else if isBreak c then
        let b ← lineBreak
        if ← atSomeDocumentMark then return none
        plainBreaks fuel (soFar ++ b)
      else return some soFar
    | none => return some soFar

/-- What stands between two words of a plain scalar, and whether it had a line end in it.  Nothing
is there if the scalar cannot go on. -/
def plainSpaces : Scan (Text × Bool) := do
  let spaces ← takeWhile (· = ' ')
  if (← peek).any isBreak then
    let first ← lineBreak
    if ← atSomeDocumentMark then return ([], true)
    match ← plainBreaks (← left) [] with
    | none => return ([], true)
    | some others => return (folded first others, true)
  return (spaces, false)

/-- Whether a plain word ends before its `n`-th character. -/
def plainEnds (inFlow : Bool) (rest : Text) : Bool :=
  match rest with
  | [] => true
  | c :: after =>
    isBlankOrEnd (some c) ||
      (c = ':' && (isBlankOrEnd after.head? ||
        (inFlow && after.head?.any [',', '[', ']', '\x7b', '\x7d'].contains))) ||
      (inFlow && [',', '?', '[', ']', '\x7b', '\x7d'].contains c)

/-- The length of the word at the beginning of a text. -/
def wordLength (inFlow : Bool) : Text → Nat
  | [] => 0
  | c :: rest => if plainEnds inFlow (c :: rest) then 0 else wordLength inFlow rest + 1

/-- Words of a plain scalar.  `margin` is the least column of a continuation line, `soFar` is the
text so far, the last character first. -/
def plainWords (inFlow : Bool) (margin : Nat) : (fuel : Nat) → (soFar spaces : Text) →
    (crossed : Bool) → Scan (Text × Bool)
  | 0, soFar, _, crossed => return (soFar.reverse, crossed)
  | fuel + 1, soFar, spaces, crossed => do
    if (← peek) = some '#' then return (soFar.reverse, crossed)
    let n := wordLength inFlow (← get).rest
    if n = 0 then return (soFar.reverse, crossed)
    let word := (← get).rest.take n
    skip n
    let (next, broken) ← plainSpaces
    let soFar := word.reverse ++ (spaces.reverse ++ soFar)
    if next = [] || (← peek) = some '#' || (!inFlow && (← get).column < margin) then
      return (soFar.reverse, broken)
    plainWords inFlow margin fuel soFar next broken

/-- A plain scalar, and whether a line end follows its last word. -/
def plainScalar (inFlow : Bool) (margin : Nat) : Scan (Text × Bool) := do
  plainWords inFlow margin (← left) [] [] false

/-! ## Quoted scalars -/

/-- The characters that an escape with one letter stands for. -/
def escapes : List (Char × Nat) :=
  [('0', 0x00), ('a', 0x07), ('b', 0x08), ('t', 0x09), ('\t', 0x09), ('n', 0x0A), ('v', 0x0B),
    ('f', 0x0C), ('r', 0x0D), ('e', 0x1B), (' ', 0x20), ('"', 0x22), ('\\', 0x5C), ('/', 0x2F),
    ('N', 0x85), ('_', 0xA0), ('L', 0x2028), ('P', 0x2029)]

/-- A code point written with `n` hexadecimal digits. -/
def codePoint (n : Nat) : Scan Text := do
  let code := Digits.ofAscii 16 (← takeExactly n Digits.isHex)
  if 0x7FFFFFFF < code then throw (.fault .overflow)
  if 0x10FFFF < code then throw (.fault (.badValue "chr() arg not in range(0x110000)".toList))
  -- A code point that is no character is shown as the replacement character.
  return [if code.isValidChar then Char.ofNat code else Char.ofNat 0xFFFD]

/-- Empty lines inside quotes; no document mark may stand there. -/
def quotedBreaks : (fuel : Nat) → (soFar : Text) → Scan Text
  | 0, soFar => return soFar
  | fuel + 1, soFar => do
    if ← atSomeDocumentMark then refuse
    let _ ← takeWhile fun c => c = ' ' || c = '\t'
    if (← peek).any isBreak then
      let b ← lineBreak
      quotedBreaks fuel (soFar ++ b)
    else return soFar

/-- One escape, after its backslash. -/
def escape : Scan Text := do
  let some c ← peek | refuse
  if let some (_, n) := escapes.find? (·.1 = c) then
    skip 1
    return [Char.ofNat n]
  match c with
  | 'x' => skip 1; codePoint 2
  | 'u' => skip 1; codePoint 4
  | 'U' => skip 1; codePoint 8
  | _ =>
    if isBreak c then
      let _ ← lineBreak
      quotedBreaks ((← left) + 1) []
    else refuse

/-- Blanks inside quotes, folded if there is a line end among them. -/
def quotedSpaces : Scan Text := do
  let blanks ← takeWhile fun c => c = ' ' || c = '\t'
  match ← peek with
  | none => refuse
  | some c =>
    if isBreak c then
      let first ← lineBreak
      return folded first (← quotedBreaks ((← left) + 1) [])
    else return blanks

/-- The inside of a quoted scalar, through the closing quote; `soFar` is the text so far, the last
character first. -/
def quotedParts (double : Bool) : (fuel : Nat) → (soFar : Text) → Scan Text
  | 0, _ => refuse
  | fuel + 1, soFar => do
    match (← get).rest with
    | [] => refuse
    | c :: rest =>
      if c = ' ' || c = '\t' || isBreak c then
        quotedParts double fuel ((← quotedSpaces).reverse ++ soFar)
      else if !double && c = '\'' then
        if rest.head? = some '\'' then
          skip 2
          quotedParts double fuel ('\'' :: soFar)
        else
          skip 1
          return soFar.reverse
      else if double && c = '"' then
        skip 1
        return soFar.reverse
      else if double && c = '\\' then
        skip 1
        quotedParts double fuel ((← escape).reverse ++ soFar)
      else
        skip 1
        quotedParts double fuel (c :: soFar)

/-- A scalar between quotes. -/
def quotedScalar (double : Bool) : Scan Text := do
  skip 1
  quotedParts double ((← left) + 1) []

/-! ## Block scalars -/

/-- What happens to the line ends at the end of a block. -/
inductive Chomping
  | clip
  | strip
  | keep
  deriving DecidableEq, Repr

def chomping? : Scan (Option Chomping) := do
  match ← peek with
  | some '+' => skip 1; return some .keep
  | some '-' => skip 1; return some .strip
  | _ => return none

/-- A written indentation, which is not zero. -/
def increment? : Scan (Option Nat) := do
  match ← peek with
  | some c =>
    if c = '0' then refuse
    else if '1' ≤ c && c ≤ '9' then
      skip 1
      return some (c.toNat - 48)
    else return none
  | none => return none

/-- The indicators after the beginning of a block, in either order. -/
def blockHeader : Scan (Chomping × Option Nat) := do
  match ← chomping? with
  | some chomping =>
    let increment ← increment?
    if !isSpaceOrEnd (← peek) then refuse
    return (chomping, increment)
  | none =>
    match ← increment? with
    | some increment =>
      let chomping := (← chomping?).getD .clip
      if !isSpaceOrEnd (← peek) then refuse
      return (chomping, some increment)
    | none =>
      if !isSpaceOrEnd (← peek) then refuse
      return (.clip, none)

/-- The empty lines in front of a block, and the greatest column that their spaces reach. -/
def blockIndentation : (fuel : Nat) → (soFar : Text) → (deepest : Nat) → Scan (Text × Nat)
  | 0, soFar, deepest => return (soFar, deepest)
  | fuel + 1, soFar, deepest => do
    match ← peek with
    | some c =>
      if c = ' ' then
        skip 1
        blockIndentation fuel soFar (max deepest (← get).column)
      else if isBreak c then
        let b ← lineBreak
        blockIndentation fuel (soFar ++ b) deepest
      else return (soFar, deepest)
    | none => return (soFar, deepest)

/-- Skips spaces up to a column. -/
def skipSpacesTo (column : Nat) : Scan Unit := do
  let c ← get
  skip ((c.rest.take (column - c.column)).takeWhile (· = ' ')).length

/-- The empty lines before the next line of a block with the given indentation. -/
def blockBreaks (indent : Nat) : (fuel : Nat) → (soFar : Text) → Scan Text
  | 0, soFar => return soFar
  | fuel + 1, soFar => do
    skipSpacesTo indent
    if (← peek).any isBreak then
      let b ← lineBreak
      blockBreaks indent fuel (soFar ++ b)
    else return soFar

/-- The lines of a block; what is in front of the next line, the last line end, and the empty lines
after it.  `soFar` is the text so far, the last character first. -/
def blockLines (isFolded : Bool) (indent : Nat) : (fuel : Nat) → (soFar lineEnd breaks : Text) →
    Scan (Text × Text × Text)
  | 0, soFar, lineEnd, breaks => return (soFar.reverse, lineEnd, breaks)
  | fuel + 1, soFar, lineEnd, breaks => do
    if (← get).column ≠ indent || (← peek) = none then return (soFar.reverse, lineEnd, breaks)
    let isIndented (c : Option Char) : Bool := c = some ' ' || c = some '\t'
    let more := isIndented (← peek)
    let line ← takeWhile fun c => !isBreak c
    let soFar := line.reverse ++ (breaks.reverse ++ soFar)
    let lineEnd ← lineBreak
    let breaks ← blockBreaks indent ((← left) + 1) []
    if (← get).column = indent && (← peek) ≠ none then
      let joint :=
        if isFolded && lineEnd = ['\n'] && !more && !isIndented (← peek) then
          if breaks = [] then [' '] else []
        else lineEnd
      blockLines isFolded indent fuel (joint.reverse ++ soFar) lineEnd breaks
    else return (soFar.reverse, lineEnd, breaks)

/-- A block scalar; `margin` is the column after that of the enclosing block. -/
def blockScalar (isFolded : Bool) (margin : Nat) : Scan Text := do
  skip 1
  let (chomping, increment) ← blockHeader
  restOfLine
  let least := max 1 margin
  let (breaks, indent) ← match increment with
    | some increment =>
      let indent := least + increment - 1
      pure (← blockBreaks indent ((← left) + 1) [], indent)
    | none =>
      let (breaks, deepest) ← blockIndentation ((← left) + 1) [] 0
      pure (breaks, max least deepest)
  let (text, lineEnd, breaks) ← blockLines isFolded indent ((← left) + 1) [] [] breaks
  return match chomping with
    | .strip => text
    | .clip => text ++ lineEnd
    | .keep => text ++ lineEnd ++ breaks

end StyleBuild.Yaml.Scan
