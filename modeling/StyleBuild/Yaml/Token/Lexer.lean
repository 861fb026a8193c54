import StyleBuild.Yaml.Token.Name
import StyleBuild.Yaml.Token.Scalar

/-!
# Cutting a document into tokens

Outside flow collections, structure is indentation: the lexer keeps the columns of the open blocks,
and a token further to the left closes those that begin to the right of it.

Whether a scalar is a key shows only when a colon comes after it.  So the lexer remembers, for each
level of flow collections, the last place where a key may have begun (`PossibleKey`), and puts the
tokens that begin a key, and perhaps a mapping, back at that place when the colon comes.  A key has
to end on its line and within 1024 characters; where only a key can stand, it is an error if the
colon does not come.
-/

namespace StyleBuild.Yaml

/-- A place where a key may have begun. -/
structure PossibleKey where
  /-- How many tokens came before it. -/
  tokensBefore : Nat
  /-- Nothing but a key can stand there. -/
  required : Bool
  index : Nat
  line : Nat
  column : Nat

/-- What the lexer knows between two tokens. -/
structure Lexer where
  cursor : Cursor
  /-- The tokens so far, the last one first. -/
  tokens : List Token
  /-- How many flow collections are open. -/
  flow : Nat
  /-- The columns of the open blocks, the innermost first. -/
  blocks : List Nat
  /-- A key may begin here. -/
  keyAllowed : Bool
  /-- The possible keys by flow level. -/
  keys : List (Nat × PossibleKey)

/-- Whether a colon cannot make a key of what began at a place any more. -/
def Lexer.isStale (l : Lexer) (k : PossibleKey) : Bool :=
  k.line ≠ l.cursor.line || 1024 < l.cursor.index - k.index

/-- A step of cutting a document. -/
abbrev Lex := StateT Lexer (Except Refusal)

namespace Lex

def refuse {α : Type} : Lex α := throw .malformed

/-- Reads from the text. -/
def scan {α : Type} (s : Scan α) : Lex α := do
  match s.run (← get).cursor with
  | .ok (a, cursor) => modify fun l => { l with cursor }; return a
  | .error e => throw e

def emit (t : Token) : Lex Unit := modify fun l => { l with tokens := t :: l.tokens }

def allowKey (allowed : Bool) : Lex Unit := modify fun l => { l with keyAllowed := allowed }

def inFlow : Lex Bool := return (← get).flow ≠ 0

/-- The column after that of the innermost block. -/
def margin : Lex Nat := return match (← get).blocks with
  | [] => 0
  | column :: _ => column + 1

/-! ## Possible keys -/

/-- Forgets the possible key of the current level, which must not have been required. -/
def dropKey : Lex Unit := do
  let l ← get
  if l.keys.any fun k => k.1 = l.flow && k.2.required then refuse
  set { l with keys := l.keys.filter (·.1 ≠ l.flow) }

/-- Forgets the possible keys that a colon cannot complete any more. -/
def dropStaleKeys : Lex Unit := do
  let l ← get
  if l.keys.any fun k => l.isStale k.2 && k.2.required then refuse
  set { l with keys := l.keys.filter fun k => !l.isStale k.2 }

/-- Remembers that a key may begin here. -/
def saveKey : Lex Unit := do
  let l ← get
  if l.keyAllowed then
    dropKey
    let required := l.flow = 0 && l.blocks.head? = some l.cursor.column
    modify fun l => { l with
      keys := (l.flow, ⟨l.tokens.length, required, l.cursor.index, l.cursor.line,
        l.cursor.column⟩) :: l.keys }

/-- Puts a token at the place of a possible key. -/
def insertAt (k : PossibleKey) (t : Token) : Lex Unit :=
  modify fun l =>
    let later := l.tokens.length - k.tokensBefore
    { l with tokens := l.tokens.take later ++ t :: l.tokens.drop later }

/-! ## Blocks -/

/-- Opens a block at a column if that is to the right of the innermost one. -/
def openBlock (column : Nat) : Lex Bool := do
  let l ← get
  if l.blocks.head?.all (· < column) then
    set { l with blocks := column :: l.blocks }
    return true
  return false

/-- Closes the blocks to the right of a column; all of them where no column is given. -/
def closeBlocks (column : Option Nat) : Lex Unit := do
  let l ← get
  if l.flow = 0 then
    let (closed, still) := match column with
      | some column => l.blocks.span (column < ·)
      | none => (l.blocks, [])
    let ends := List.replicate closed.length Token.blockEnd
    set { l with blocks := still, tokens := ends ++ l.tokens }

/-! ## Tokens -/

/-- Skips blanks, comments and line ends. -/
def skipToToken : (fuel : Nat) → Lex Unit
  | 0 => return
  | fuel + 1 => do
    scan Scan.skipSpaces
    if (← scan Scan.peek) = some '#' then
      let _ ← scan (Scan.takeWhile fun c => !isBreak c)
    if (← scan Scan.peek).any isBreak then
      let _ ← scan Scan.lineBreak
      if !(← inFlow) then allowKey true
      skipToToken fuel

/-- A mark at the beginning of a line that ends what is open. -/
def endBlocks : Lex Unit := do
  closeBlocks none
  dropKey
  allowKey false

def documentMark (t : Token) : Lex Unit := do
  endBlocks
  scan (Scan.skip 3)
  emit t

def flowStart (t : Token) : Lex Unit := do
  saveKey
  modify fun l => { l with flow := l.flow + 1 }
  allowKey true
  scan (Scan.skip 1)
  emit t

/-- The end of a flow collection; without an open one it cannot stand anywhere. -/
def flowEnd (t : Token) : Lex Unit := do
  dropKey
  if !(← inFlow) then refuse
  modify fun l => { l with flow := l.flow - 1 }
  allowKey false
  scan (Scan.skip 1)
  emit t

def flowEntry : Lex Unit := do
  allowKey true
  dropKey
  scan (Scan.skip 1)
  emit .flowEntry

def blockEntry : Lex Unit := do
  if !(← inFlow) then
    if !(← get).keyAllowed then refuse
    if ← openBlock (← get).cursor.column then emit .blockSequenceStart
  allowKey true
  dropKey
  scan (Scan.skip 1)
  emit .blockEntry

def keyIndicator : Lex Unit := do
  if !(← inFlow) then
    if !(← get).keyAllowed then refuse
    if ← openBlock (← get).cursor.column then emit .blockMappingStart
  allowKey !(← inFlow)
  dropKey
  scan (Scan.skip 1)
  emit .key

def valueIndicator : Lex Unit := do
  let l ← get
  match l.keys.find? (·.1 = l.flow) with
  | some (_, k) =>
    set { l with keys := l.keys.filter (·.1 ≠ l.flow) }
    insertAt k .key
    if !(← inFlow) then
      if ← openBlock k.column then insertAt k .blockMappingStart
    allowKey false
  | none =>
    if !(← inFlow) then
      if !l.keyAllowed then refuse
      if ← openBlock l.cursor.column then emit .blockMappingStart
    allowKey !(← inFlow)
    dropKey
  scan (Scan.skip 1)
  emit .value

/-- A token that can begin a key. -/
def keyStart (s : Scan Token) : Lex Unit := do
  saveKey
  allowKey false
  emit (← scan s)

def blockScalar (folded : Bool) : Lex Unit := do
  allowKey true
  dropKey
  emit (.scalar (← scan (Scan.blockScalar folded (← margin))) false)

def plainScalar : Lex Unit := do
  saveKey
  allowKey false
  let (text, crossed) ← scan (Scan.plainScalar (← inFlow) (← margin))
  emit (.scalar text true)
  if crossed then allowKey true

/-- Whether a plain scalar can begin with `c`, where `next` is the character after it. -/
def beginsPlain (inFlow : Bool) (c : Char) (next : Option Char) : Bool :=
  !(isBlankOrEnd (some c) || "-?:,[]\x7b\x7d#&*!|>'\"%@\x60".toList.contains c) ||
    (!isBlankOrEnd next && (c = '-' || (!inFlow && (c = '?' || c = ':'))))

/-- The next token, which begins with `c`. -/
def token (c : Char) : Lex Unit := do
  let inFlow ← inFlow
  let next ← scan (Scan.peekAt 1)
  let atLineStart := (← get).cursor.column = 0
  if atLineStart && c = '%' then
    endBlocks
    emit (.directive (← scan Scan.directive))
  else if atLineStart && (← scan (Scan.atDocumentMark '-')) then documentMark .documentStart
  else if atLineStart && (← scan (Scan.atDocumentMark '.')) then documentMark .documentEnd
  else if c = '[' then flowStart .flowSequenceStart
  else if c = '\x7b' then flowStart .flowMappingStart
  else if c = ']' then flowEnd .flowSequenceEnd
  else if c = '\x7d' then flowEnd .flowMappingEnd
  else if c = ',' then flowEntry
  else if c = '-' && isBlankOrEnd next then blockEntry
  else if c = '?' && (inFlow || isBlankOrEnd next) then keyIndicator
  else if c = ':' && (inFlow || isBlankOrEnd next) then valueIndicator
  else if c = '*' then keyStart (.reference <$> Scan.anchorName)
  else if c = '&' then keyStart (.anchor <$> Scan.anchorName)
  else if c = '!' then keyStart Scan.tag
  else if c = '|' && !inFlow then blockScalar false
  else if c = '>' && !inFlow then blockScalar true
  else if c = '\'' then keyStart ((.scalar · false) <$> Scan.quotedScalar false)
  else if c = '"' then keyStart ((.scalar · false) <$> Scan.quotedScalar true)
  else if beginsPlain inFlow c next then plainScalar
  else refuse

/-- Cuts off the next token, which is at most `fuel` line ends away; gives whether there was one. -/
def step (fuel : Nat) : Lex Bool := do
  skipToToken fuel
  dropStaleKeys
  let next ← scan Scan.peek
  closeBlocks (some (← get).cursor.column)
  match next with
  | none =>
    closeBlocks none
    dropKey
    return false
  | some c =>
    token c
    return true

end Lex

/-- How many tokens can be told without knowing what comes next: whether a possible key is one does
not show yet. -/
def Lexer.settled (l : Lexer) : Nat :=
  let pending := l.keys.filter fun k => !l.isStale k.2
  (pending.map (·.2.tokensBefore)).foldl min l.tokens.length

/-- The tokens of a text.  Every token takes a character, so the fuel stays above the number of
characters that are left. -/
def Lexer.run : (fuel : Nat) → Lexer → Except Refusal Tokens
  | 0, _ => .error .malformed
  | fuel + 1, l =>
    match (Lex.step fuel).run l with
    | .ok (true, l) => l.run fuel
    | .ok (false, l) => .ok ⟨l.tokens.reverse, none⟩
    | .error .malformed => .error .malformed
    | .error (.fault e) => .ok ⟨l.tokens.reverse.take l.settled, some e⟩

/-- The tokens of a text. -/
def Tokens.ofText (t : Text) : Except Refusal Tokens :=
  if !t.all isAllowed then .error .malformed
  else
    let t := if t.head? = some byteOrderMark then t.drop 1 else t
    Lexer.run (2 * t.length + 2) ⟨.start t, [], 0, [], true, []⟩

end StyleBuild.Yaml
