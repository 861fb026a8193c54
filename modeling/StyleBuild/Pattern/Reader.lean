import StyleBuild.Number.Digits
import StyleBuild.Text.CharClass.Identifier
import StyleBuild.Text.CharName
import StyleBuild.Pattern.Syntax

/-!
# Reading patterns

The written form of a pattern is cut into tokens, a backslash together with the character that it
protects, and read by recursive descent: a choice of sequences of repeated pieces.  Modes are
inherited by what stands inside a group, and may be switched for the whole pattern at its very
beginning.

What the alternatives of a choice begin with in common is taken out of it, and a choice between
single characters is a set.  This matters where case is ignored, because a set compares its members
in a way of its own.

A text that is no pattern is refused as `malformed`, whatever is wrong with it.  Four refusals are
kept apart, because they are not about the form: a number of rounds that does not fit in 32 bits, a
number that is too long to be converted, two modes that exclude each other, and a look behind that
is too wide.

Every call consumes a token or goes down one level of the grammar, so a pattern of `n` tokens is
read with a fuel proportional to `n`.
-/

namespace StyleBuild.Pattern

/-- Why a text is no pattern. -/
inductive Refusal
  | malformed
  /-- A number of rounds of 32 bits or more. -/
  | tooManyRounds
  /-- A number of rounds with more digits than are converted. -/
  | tooManyDigits (count : Nat)
  /-- ASCII and Unicode classes are asked for at the same time. -/
  | incompatibleModes
  /-- A look behind goes farther back than 31 bits can count. -/
  | tooWide
  deriving DecidableEq, Repr

/-- A character, or one that a backslash protects. -/
inductive Token
  | plain (c : Char)
  | escaped (c : Char)
  deriving DecidableEq, Repr

/-- The tokens of a text, and whether a last backslash protects nothing. -/
def tokens : Text → List Token × Bool
  | [] => ([], false)
  | ['\\'] => ([], true)
  | '\\' :: c :: r => (.escaped c :: (tokens r).1, (tokens r).2)
  | c :: r => (.plain c :: (tokens r).1, (tokens r).2)

/-- The modes in force at some point of a pattern. -/
structure Mode where
  ignoreCase : Bool := false
  multiline : Bool := false
  dotAll : Bool := false
  verbose : Bool := false
  ascii : Bool := false
  unicode : Bool := false
  /-- Repetition is not allowed. -/
  fixed : Bool := false
  deriving DecidableEq, Repr

namespace Mode

/-- The letters that name modes. -/
def letters : Text := ['i', 'L', 'm', 's', 'x', 'a', 't', 'u']

/-- Sets the mode with the given letter. -/
def set (m : Mode) (on : Bool) (letter : Char) : Mode :=
  match letter with
  | 'i' => { m with ignoreCase := on }
  | 'm' => { m with multiline := on }
  | 's' => { m with dotAll := on }
  | 'x' => { m with verbose := on }
  | 'a' => { m with ascii := on }
  | 'u' => { m with unicode := on }
  | 't' => { m with fixed := on }
  | _ => m

/-- Switches modes inside a group.  ASCII and Unicode classes exclude each other, so asking for one
ends the other. -/
def switch (m : Mode) (on off : Text) : Mode :=
  let m := if on.contains 'a' || on.contains 'u' then { m with ascii := false, unicode := false }
    else m
  off.foldl (set · false) (on.foldl (set · true) m)

def folding (m : Mode) : Folding :=
  if !m.ignoreCase then .exact else if m.ascii then .ascii else .full

end Mode

/-- What is known while a pattern is being read. -/
structure Reader where
  tokens : List Token
  /-- The tokens are followed by a backslash that protects nothing. -/
  dangling : Bool
  /-- The modes of the whole pattern. -/
  mode : Mode
  /-- How many groups were opened. -/
  opened : Nat
  /-- The groups that were closed, with their widths. -/
  closed : List (Nat × Width)
  names : List (Text × Nat)
  /-- Inside a look behind: groups from this one on may not be referred to. -/
  behindFrom : Option Nat
  /-- Groups that conditions named by number. -/
  numbered : List Nat
  /-- Some look behind has no fixed width. -/
  openWidth : Bool
  /-- Some look behind is too wide. -/
  overWidth : Bool
  /-- Something is repeated. -/
  repeats : Bool

/-- A step of reading. -/
abbrev Read := StateT Reader (Except Refusal)

namespace Read

def peek : Read (Option Token) := return (← get).tokens.head?

/-- Continues with the given tokens.  Coming to a backslash that protects nothing is an error even
before it would be read. -/
def continueWith (rest : List Token) : Read Unit := do
  if rest.isEmpty && (← get).dangling then throw .malformed
  modify fun r => { r with tokens := rest }

/-- Takes the next token, if there is one. -/
def next : Read (Option Token) := do
  match (← get).tokens with
  | [] => return none
  | t :: rest => continueWith rest; return some t

/-- Takes the next token if it is the given character. -/
def accept (c : Char) : Read Bool := do
  if (← peek) = some (.plain c) then
    let _ ← next
    return true
  return false

def expect (c : Char) : Read Unit := do
  if !(← accept c) then throw .malformed

/-- The characters in front that satisfy `p`, at most `limit` of them, and the other tokens. -/
def span (p : Char → Bool) : (limit : Nat) → List Token → Text × List Token
  | limit + 1, .plain c :: rest =>
    if p c then
      let (cs, rest) := span p limit rest
      (c :: cs, rest)
    else ([], .plain c :: rest)
  | _, ts => ([], ts)

/-- Takes at most `limit` characters that satisfy `p`. -/
def takeWhile (p : Char → Bool) (limit : Nat) : Read Text := do
  let (cs, rest) := span p limit (← get).tokens
  if !cs.isEmpty then continueWith rest
  return cs

/-- The text up to a character, and the tokens after it. -/
def spanUntil (stop : Char) : List Token → Option (Text × List Token)
  | [] => none
  | .plain c :: rest =>
    if c = stop then some ([], rest)
    else (spanUntil stop rest).map fun (cs, rest) => (c :: cs, rest)
  | .escaped c :: rest => (spanUntil stop rest).map fun (cs, rest) => ('\\' :: c :: cs, rest)

/-- Takes the non-empty text up to a character, and that character. -/
def takeUntil (stop : Char) : Read Text := do
  match spanUntil stop (← get).tokens with
  | none | some ([], _) => throw .malformed
  | some (cs, rest) => continueWith rest; return cs

/-! ## Groups -/

def isClosed (index : Nat) : Read Bool := return (← get).closed.any (·.1 = index)

/-- Inside a look behind, only groups that were closed before it may be referred to. -/
def checkBehind (index : Nat) : Read Unit := do
  if let some limit := (← get).behindFrom then
    if !(← isClosed index) || limit ≤ index then throw .malformed

/-- What a closed group has matched, again. -/
def sameAs (mode : Mode) (index : Nat) : Read Node := do
  if !(← isClosed index) then throw .malformed
  checkBehind index
  return .sameAs index mode.folding

/-- The widths of the groups that were closed. -/
def groupWidth (r : Reader) (index : Nat) : Width :=
  ((r.closed.find? (·.1 = index)).map (·.2)).getD .zero

/-- Opens a group, which a name may be given to, and gives its number. -/
def openGroup (name : Option Text) : Read Nat := do
  let r ← get
  let index := r.opened + 1
  if let some name := name then
    if r.names.any (·.1 = name) then throw .malformed
    set { r with opened := index, names := (name, index) :: r.names }
  else
    set { r with opened := index }
  return index

def closeGroup (index : Nat) (body : Node) : Read Unit :=
  modify fun r => { r with closed := (index, body.width (groupWidth r)) :: r.closed }

/-- The group with a name. -/
def groupNamed (name : Text) : Read Nat := do
  match (← get).names.find? (·.1 = name) with
  | some (_, index) => return index
  | none => throw .malformed

/-! ## Escapes -/

def isOctalDigit (c : Char) : Bool := '0' ≤ c && c ≤ '7'

/-- Exactly `count` hexadecimal digits of a code point. -/
def hexCode (count : Nat) : Read Nat := do
  let digits ← takeWhile Digits.isHex count
  if digits.length ≠ count then throw .malformed
  let n := Digits.ofAscii 16 digits
  if 0x10FFFF < n then throw .malformed
  return n

/-- The code point of the character whose name stands in braces. -/
def namedCode : Read Nat := do
  expect '\x7b'
  match CharName.ofName? (← takeUntil '\x7d') with
  | some c => return c.toNat
  | none => throw .malformed

/-- The control characters that have a letter. -/
def controlCode? : Char → Option Nat
  | 'a' => some 7
  | 'f' => some 12
  | 'n' => some 10
  | 'r' => some 13
  | 't' => some 9
  | 'v' => some 11
  | '\\' => some 92
  | _ => none

/-- The named classes, the capital for the complement. -/
def category? : Char → Option (Category × Bool)
  | 'd' => some (.digit, false)
  | 'D' => some (.digit, true)
  | 's' => some (.blank, false)
  | 'S' => some (.blank, true)
  | 'w' => some (.word, false)
  | 'W' => some (.word, true)
  | _ => none

/-- Up to three octal digits, of which the first was read. -/
def octalCode (first : Char) : Read Nat := do
  let n := Digits.ofAscii 8 (first :: (← takeWhile isOctalDigit 2))
  if 0o377 < n then throw .malformed
  return n

def isAsciiLetter (c : Char) : Bool := ('a' ≤ c && c ≤ 'z') || ('A' ≤ c && c ≤ 'Z')

/-- A protected character that stands for a code point both inside and outside a set. -/
def commonCode (c : Char) : Read Nat := do
  match c with
  | 'x' => hexCode 2
  | 'u' => hexCode 4
  | 'U' => hexCode 8
  | 'N' => namedCode
  | _ => if isAsciiLetter c || CharClass.isAsciiDigit c then throw .malformed else return c.toNat

/-- A protected character inside a set. -/
def setEscape (c : Char) : Read Member := do
  if c = 'b' then return .code 8
  if let some n := controlCode? c then return .code n
  if let some (k, negated) := category? c then return .category k negated
  if isOctalDigit c then return .code (← octalCode c)
  return .code (← commonCode c)

def literal (mode : Mode) (n : Nat) : Node := .char (.code n false mode.folding)

/-- A number after a backslash: a group, unless it has three octal digits. -/
def numberEscape (mode : Mode) (first : Char) : Read Node := do
  let second ← takeWhile CharClass.isAsciiDigit 1
  if second.all isOctalDigit && isOctalDigit first && !second.isEmpty then
    let third ← takeWhile isOctalDigit 1
    if !third.isEmpty then
      let n := Digits.ofAscii 8 (first :: second ++ third)
      if 0o377 < n then throw .malformed
      return literal mode n
  let index := Digits.ofAscii 10 (first :: second)
  if (← get).opened < index then throw .malformed
  sameAs mode index

/-- A protected character outside a set. -/
def escape (mode : Mode) (c : Char) : Read Node := do
  match c with
  | 'A' => return .anchor .textStart
  | 'Z' => return .anchor .textEnd
  | 'b' => return .anchor (.boundary mode.ascii)
  | 'B' => return .anchor (.noBoundary mode.ascii)
  | _ =>
    if let some (k, negated) := category? c then
      return .char (.set [.category k negated] false mode.ascii mode.folding)
    if let some n := controlCode? c then return literal mode n
    if c = '0' then return literal mode (← octalCode c)
    if CharClass.isAsciiDigit c then return ← numberEscape mode c
    return literal mode (← commonCode c)

/-! ## Sets -/

/-- The members of a set up to its bracket; a bracket that comes first is a member. -/
def members : (fuel : Nat) → List Member → Read (List Member)
  | 0, _ => throw .malformed
  | fuel + 1, soFar => do
    let some t ← next | throw .malformed
    if t = .plain ']' ∧ soFar ≠ [] then return soFar.reverse
    let low ← match t with
      | .plain c => pure (Member.code c.toNat)
      | .escaped c => setEscape c
    if ← accept '-' then
      let some t ← next | throw .malformed
      if t = .plain ']' then return (.code '-'.toNat :: low :: soFar).reverse
      let high ← match t with
        | .plain c => pure (Member.code c.toNat)
        | .escaped c => setEscape c
      match low, high with
      | .code a, .code b =>
        if b < a then throw .malformed
        members fuel (.range a b :: soFar)
      | _, _ => throw .malformed
    else members fuel (low :: soFar)

/-- A set, after its opening bracket. -/
def charSet (mode : Mode) : Read Node := do
  let negated ← accept '^'
  let ms := (← members ((← get).tokens.length + 1) []).eraseDups
  match ms with
  | [.code n] => return .char (.code n negated mode.folding)
  | _ => return .char (.set ms negated mode.ascii mode.folding)

/-! ## Repetition -/

/-- The first number of rounds that is too large. -/
def roundsBound : Nat := 4294967295

/-- A number of rounds. -/
def roundsNumber (digits : Text) : Read Nat := do
  if Digits.limit < digits.length then throw (.tooManyDigits digits.length)
  let n := Digits.ofAscii 10 digits
  if roundsBound ≤ n then throw .tooManyRounds
  return n

/-- The bounds of a repetition in braces, after the opening one; `none` if what follows is no
count, and then nothing is consumed. -/
def bounds : Read (Option (Nat × Option Nat)) := do
  if (← peek) = some (.plain '\x7d') then return none
  let saved ← get
  let digits := takeWhile CharClass.isAsciiDigit saved.tokens.length
  let low ← digits
  let high ← if ← accept ',' then digits else pure low
  if !(← accept '\x7d') then
    set saved
    return none
  let least ← if low = [] then pure 0 else roundsNumber low
  if high = [] then return some (least, none)
  let most ← roundsNumber high
  if most < least then throw .malformed
  return some (least, some most)

/-- A repetition that was just read, or `none` for a brace that stands for itself. -/
def quantifier (c : Char) : Read (Option (Nat × Option Nat)) :=
  match c with
  | '*' => return some (0, none)
  | '+' => return some (1, none)
  | '?' => return some (0, some 1)
  | _ => bounds

def greed : Read Greed := do
  if ← accept '?' then return .modest
  if ← accept '+' then return .possessive
  return .greedy

/-- One piece of a sequence, and what it is as far as repeating it goes. -/
inductive Piece
  | plain (n : Node)
  /-- What stands between brackets that only hold it together. -/
  | bundle (ns : List Node)
  /-- A position cannot be repeated. -/
  | anchor (n : Node)
  /-- A repetition cannot be repeated again without brackets. -/
  | repeated (n : Node)

def Piece.nodes : Piece → List Node
  | .plain n => [n]
  | .bundle ns => ns
  | .anchor n => [n]
  | .repeated n => [n]

/-- The nodes of a sequence of pieces, the last one first. -/
def nodesOf (pieces : List Piece) : List Node := pieces.reverse.flatMap Piece.nodes

/-- A body that is repeated. -/
def repetition (greed : Greed) (least : Nat) (most : Option Nat) (body : List Node) : Node :=
  let body := Node.ofList body
  match body.unit? with
  | some test => .chars greed least most test
  | none => .rounds greed least most body

/-- Repeats the last piece. -/
def repeatLast (least : Nat) (most : Option Nat) : List Piece → Read (List Piece)
  | p :: others =>
    match p with
    | .plain _ | .bundle _ => do
      modify fun r => { r with repeats := true }
      return .repeated (repetition (← greed) least most p.nodes) :: others
    | .anchor _ | .repeated _ => throw .malformed
  | [] => throw .malformed

/-! ## Choices -/

/-- Whether two nodes without parts are the same. -/
def isSameLeaf : Node → Node → Bool
  | .char s, .char t => s = t
  | .anchor a, .anchor b => a = b
  | .sameAs i f, .sameAs j g => i = j && f = g
  | _, _ => false

/-- What alternatives begin with in common, and what is left of each: of the first one and of the
others. -/
def cutCommon : List Node → List (List Node) → List Node × List (List Node)
  | [], others => ([], [] :: others)
  | n :: rest, others =>
    if others.all fun ns => ns.head?.any (isSameLeaf n) then
      let (common, left) := cutCommon rest (others.map List.tail)
      (n :: common, left)
    else ([], (n :: rest) :: others)

/-- The members of a set that an alternative is one of. -/
def setMembers? : List Node → Option (List Member)
  | [.char (.code n false _)] => some [.code n]
  | [.char (.set ms false _ _)] => some ms
  | _ => none

/-- The choice between alternatives. -/
def choiceOf (mode : Mode) : List (List Node) → List Node
  | [] => []
  | [ns] => ns
  | first :: others =>
    let (common, left) := cutCommon first others
    match left.mapM setMembers? with
    | some sets => common ++ [.char (.set sets.flatten.eraseDups false mode.ascii mode.folding)]
    | none => common ++ [Node.ofAlternatives (left.map Node.ofList)]

/-! ## Modes -/

/-- The mode letters up to a character of `stops`, and that character. -/
def modeLetters (stops : Text) : (fuel : Nat) → (soFar : Text) → Read (Text × Char)
  | 0, _ => throw .malformed
  | fuel + 1, soFar => do
    let some (.plain c) ← next | throw .malformed
    if stops.contains c then return (soFar, c)
    if !Mode.letters.contains c then throw .malformed
    modeLetters stops fuel (c :: soFar)

/-- Modes switched on and off, and whether this is for the whole pattern; `first` is the letter or
the minus sign that was read. -/
def modeSwitch (first : Char) : Read (Text × Text × Bool) := do
  let fuel := (← get).tokens.length + 1
  let (on, stop) ← if first = '-' then pure ([], '-') else modeLetters [')', '-', ':'] fuel [first]
  if on.contains 'L' || (on.contains 'a' && on.contains 'u') then throw .malformed
  if stop = ')' then return (on, [], true)
  if on.contains 't' then throw .malformed
  if stop = ':' then return (on, [], false)
  let (off, _) ← modeLetters [':'] fuel []
  if off = [] || off.any (['a', 'u', 'L', 't'].contains ·) then throw .malformed
  if off.any on.contains then throw .malformed
  return (on, off, false)

/-! ## Conditions -/

/-- The number that digits write, given the value of those before them; a single underscore may
stand between two digits. -/
def looseDigits? : Text → Option Nat → Option Nat
  | [], soFar => soFar
  | '_' :: c :: r, some n =>
    (CharClass.digitValue? c).bind fun d => looseDigits? r (some (n * 10 + d))
  | c :: r, soFar =>
    (CharClass.digitValue? c).bind fun d => looseDigits? r (some (soFar.getD 0 * 10 + d))

/-- The number that a text writes, with blanks around it and a plus sign allowed. -/
def looseNumber? (t : Text) : Option Nat :=
  match Text.trimBoth CharClass.isSpace t with
  | '+' :: t => looseDigits? t none
  | t => looseDigits? t none

/-- Group numbers stay below this. -/
def groupBound : Nat := 1073741823

/-- The group that a condition names, by name or by number. -/
def conditionGroup (name : Text) : Read Nat := do
  if CharClass.isName name then groupNamed name
  else match looseNumber? name with
    | none => throw .malformed
    | some n =>
      if n = 0 || groupBound ≤ n then throw .malformed
      modify fun r => { r with numbered := n :: r.numbered }
      return n

/-- The first width that is too large for a look behind. -/
def widthBound : Nat := 2147483648

/-- A look behind, whose body must have one width.  The check of the width is left to the end, so
that what is wrong later in the text is found first. -/
def lookBehind (negated : Bool) (body : Node) : Read Node := do
  let r ← get
  let width := body.width (groupWidth r)
  set { r with
    openWidth := r.openWidth || width.least ≠ width.most
    overWidth := r.overWidth || widthBound ≤ width.least }
  return .behind negated width.least body

/-! ## The grammar -/

/-- The modes after the beginning of a pattern, where those of the whole pattern may have been
switched. -/
def inForce (mode : Mode) (top : Bool) : Read Mode := do
  if top then return (← get).mode
  return mode

/-- What a bracket turned out to be. -/
inductive Bracket
  | piece (p : Piece)
  | comment
  /-- Modes for the whole pattern. -/
  | modes (on : Text)

mutual

/-- Sequences separated by bars; `top` outside all brackets, `first` at the very beginning. -/
def alternatives (mode : Mode) (top first : Bool) : (fuel : Nat) → Read (List (List Node))
  | 0 => throw .malformed
  | fuel + 1 => do
    let branch ← sequence mode first [] fuel
    if ← accept '|' then
      let mode ← inForce mode top
      return branch :: (← alternatives mode top false fuel)
    return [branch]

/-- A choice of sequences. -/
def choice (mode : Mode) (top : Bool) : (fuel : Nat) → Read (List Node)
  | 0 => throw .malformed
  | fuel + 1 => do
    let branches ← alternatives mode top top fuel
    return choiceOf (← inForce mode top) branches

/-- Pieces up to a bar or a closing bracket; `pieces` holds those that were read, the last one
first. -/
def sequence (mode : Mode) (first : Bool) (pieces : List Piece) : (fuel : Nat) → Read (List Node)
  | 0 => throw .malformed
  | fuel + 1 => do
    match ← peek with
    | none | some (.plain '|') | some (.plain ')') => return nodesOf pieces
    | some t =>
      let _ ← next
      match t with
      | .escaped c =>
        let n ← escape mode c
        let piece := match n with
          | .anchor _ => .anchor n
          | _ => .plain n
        sequence mode first (piece :: pieces) fuel
      | .plain c =>
        if mode.verbose && CharClass.isAsciiBlank c then sequence mode first pieces fuel
        else if mode.verbose && c = '#' then
          let rest := (← get).tokens.dropWhile (· ≠ .plain '\n')
          continueWith (rest.drop 1)
          sequence mode first pieces fuel
        else if ['*', '+', '?', '\x7b'].contains c then
          match ← quantifier c with
          | none => sequence mode first (.plain (literal mode c.toNat) :: pieces) fuel
          | some (least, most) =>
            sequence mode first (← repeatLast least most pieces) fuel
        else if c = '(' then
          match ← bracket mode fuel with
          | .piece p => sequence mode first (p :: pieces) fuel
          | .comment => sequence mode first pieces fuel
          | .modes on =>
            if !first || !pieces.isEmpty then throw .malformed
            sequence (on.foldl (Mode.set · true) mode) first pieces fuel
        else
          let piece ← match c with
            | '[' => .plain <$> charSet mode
            | '.' => pure (.plain (.char (.any mode.dotAll)))
            | '^' => pure (.anchor (.anchor (if mode.multiline then .lineStart else .textStart)))
            | '$' => pure (.anchor (.anchor (if mode.multiline then .lineEnd else .finish)))
            | _ => pure (.plain (literal mode c.toNat))
          sequence mode first (piece :: pieces) fuel

/-- What follows an opening bracket, through the closing one. -/
def bracket (mode : Mode) : (fuel : Nat) → Read Bracket
  | 0 => throw .malformed
  | fuel + 1 => do
    let plain (n : Node) : Bracket := .piece (.plain n)
    if !(← accept '?') then return plain (← group mode none fuel)
    let some (.plain c) ← next | throw .malformed
    match c with
    | 'P' =>
      let some (.plain c) ← next | throw .malformed
      if c = '<' then
        let name ← takeUntil '>'
        if !CharClass.isName name then throw .malformed
        return plain (← group mode (some name) fuel)
      if c = '=' then
        let name ← takeUntil ')'
        if !CharClass.isName name then throw .malformed
        return plain (← sameAs mode (← groupNamed name))
      throw .malformed
    | ':' => return .piece (.bundle (← enclosed mode fuel))
    | '>' => return plain (.atomic (Node.ofList (← enclosed mode fuel)))
    | '#' =>
      let rest := (← get).tokens.dropWhile (· ≠ .plain ')')
      if rest.isEmpty then throw .malformed
      continueWith (rest.drop 1)
      return .comment
    | '=' => return plain (.ahead false (Node.ofList (← enclosed mode fuel)))
    | '!' => return plain (.ahead true (Node.ofList (← enclosed mode fuel)))
    | '<' =>
      let some (.plain c) ← next | throw .malformed
      if c ≠ '=' && c ≠ '!' then throw .malformed
      let outer := (← get).behindFrom
      if outer = none then modify fun r => { r with behindFrom := some (r.opened + 1) }
      let body ← choice mode false fuel
      if outer = none then modify fun r => { r with behindFrom := none }
      expect ')'
      return plain (← lookBehind (c = '!') (Node.ofList body))
    | '(' =>
      let index ← conditionGroup (← takeUntil ')')
      checkBehind index
      let yes ← sequence mode false [] fuel
      let no ← if ← accept '|' then sequence mode false [] fuel else pure []
      expect ')'
      return plain (.whether index (Node.ofList yes) (Node.ofList no))
    | _ =>
      if c ≠ '-' && !Mode.letters.contains c then throw .malformed
      let (on, off, whole) ← modeSwitch c
      if whole then
        modify fun r => { r with mode := on.foldl (Mode.set · true) r.mode }
        return .modes on
      return plain (.scope (Node.ofList (← enclosed (mode.switch on off) fuel)))

/-- A body and its closing bracket. -/
def enclosed (mode : Mode) : (fuel : Nat) → Read (List Node)
  | 0 => throw .malformed
  | fuel + 1 => do
    let body ← choice mode false fuel
    expect ')'
    return body

/-- A group that remembers what it matched. -/
def group (mode : Mode) (name : Option Text) : (fuel : Nat) → Read Node
  | 0 => throw .malformed
  | fuel + 1 => do
    let index ← openGroup name
    let body := Node.ofList (← enclosed mode fuel)
    closeGroup index body
    return .group index body

end

/-- A whole pattern. -/
def pattern : Read Form := do
  let r ← get
  if r.tokens.isEmpty && r.dangling then throw .malformed
  let root ← Node.ofList <$> choice {} true (7 * r.tokens.length + 8)
  let r ← get
  if r.mode.ascii && r.mode.unicode then throw .incompatibleModes
  if !r.tokens.isEmpty then throw .malformed
  if r.numbered.any (r.opened < ·) then throw .malformed
  if r.openWidth || (r.mode.fixed && r.repeats) then throw .malformed
  if r.overWidth then throw .tooWide
  return Form.ofNode (groupWidth r) r.mode.ascii root

end Read

/-- Reads the written form of a pattern. -/
def Form.ofText (t : Text) : Except Refusal Form :=
  let (tokens, dangling) := tokens t
  (Read.pattern.run ⟨tokens, dangling, {}, 0, [], [], none, [], false, false, false⟩).map (·.1)

end StyleBuild.Pattern
