import StyleBuild.Yaml.Token

/-!
# Reading from a text

A `Cursor` is what is left of a text and where it begins: the column decides the structure of a
block, the line and the index decide how long a key may still be a key.  `Scan` is a step of reading
that moves the cursor or refuses the text.
-/

namespace StyleBuild.Yaml

/-- What is left of a text, and where that begins. -/
structure Cursor where
  rest : Text
  line : Nat
  column : Nat
  index : Nat

namespace Cursor

/-- The beginning of a text. -/
def start (t : Text) : Cursor := ⟨t, 0, 0, 0⟩

/-- Past one character. -/
def advance (c : Cursor) : Cursor :=
  match c.rest with
  | [] => c
  | a :: rest =>
    if isBreak a then ⟨rest, c.line + 1, 0, c.index + 1⟩
    else if a = byteOrderMark then ⟨rest, c.line, c.column, c.index + 1⟩
    else ⟨rest, c.line, c.column + 1, c.index + 1⟩

/-- Past a number of characters. -/
def skip (c : Cursor) : Nat → Cursor
  | 0 => c
  | n + 1 => c.advance.skip n

end Cursor

/-- A step of reading. -/
abbrev Scan := StateT Cursor (Except Refusal)

namespace Scan

def refuse {α : Type} : Scan α := throw .malformed

/-- The next character. -/
def peek : Scan (Option Char) := return (← get).rest.head?

/-- The character after the next `n`. -/
def peekAt (n : Nat) : Scan (Option Char) := return (← get).rest[n]?

def skip (n : Nat) : Scan Unit := modify (·.skip n)

/-- Takes the characters that satisfy `p`. -/
def takeWhile (p : Char → Bool) : Scan Text := do
  let taken := (← get).rest.takeWhile p
  skip taken.length
  return taken

/-- Takes exactly `n` characters, all of which satisfy `p`. -/
def takeExactly (n : Nat) (p : Char → Bool) : Scan Text := do
  let taken := (← get).rest.take n
  if taken.length ≠ n || !taken.all p then refuse
  skip n
  return taken

def skipSpaces : Scan Unit := do
  let _ ← takeWhile (· = ' ')

/-- How many characters are left; no loop over them goes round more often. -/
def left : Scan Nat := return (← get).rest.length

/-- Takes a line end, if there is one, as the character that it counts as. -/
def lineBreak : Scan Text := do
  match (← get).rest with
  | '\r' :: '\n' :: _ => skip 2; return ['\n']
  | c :: _ =>
    if !isBreak c then return []
    skip 1
    return [if c.toNat = 0x2028 || c.toNat = 0x2029 then c else '\n']
  | [] => return []

/-- Skips spaces and a comment up to the end of the line, which has to follow. -/
def restOfLine : Scan Unit := do
  skipSpaces
  if (← peek) = some '#' then
    let _ ← takeWhile fun c => !isBreak c
  if !isBreakOrEnd (← peek) then refuse
  let _ ← lineBreak

/-- Whether a line of a new document, or the end of this one, begins here. -/
def atDocumentMark (mark : Char) : Scan Bool := do
  let rest := (← get).rest
  return rest.take 3 = [mark, mark, mark] && isBlankOrEnd rest[3]?

def atSomeDocumentMark : Scan Bool := return (← atDocumentMark '-') || (← atDocumentMark '.')

end Scan

end StyleBuild.Yaml
