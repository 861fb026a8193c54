import StyleBuild.Text.CharClass.Word
import StyleBuild.Text.LetterCase

/-!
# Tests of one character

The leaves of a pattern look at one character.  A leaf names code points, not characters, since a
pattern may write a code point that no text contains.

Ignoring case means comparing small letters: `a` and `A` are equal because both have the small
letter `a`.  A few small letters share a capital and are then equal too.  A test that names nothing
with two cases looks at the character as it is; `Members.isCased` decides that once for a whole set.
-/

namespace StyleBuild.Pattern

/-- How the case of a letter counts. -/
inductive Folding
  | exact
  /-- Only the case of ASCII letters is ignored. -/
  | ascii
  | full
  deriving DecidableEq, Repr

/-- The three named classes. -/
inductive Category
  | digit
  | blank
  | word
  deriving DecidableEq, Repr

/-- Whether a character is in a named class; `ascii` takes only the ASCII part of the class. -/
def Category.has (ascii : Bool) (k : Category) (c : Char) : Bool :=
  match k, ascii with
  | .digit, true => CharClass.isAsciiDigit c
  | .digit, false => CharClass.isDecimal c
  | .blank, true => CharClass.isAsciiBlank c
  | .blank, false => CharClass.isBlank c
  | .word, true => CharClass.isAsciiWord c
  | .word, false => CharClass.isWord c

/-- One member of a set. -/
inductive Member
  | code (n : Nat)
  | range (low high : Nat)
  | category (k : Category) (negated : Bool)
  deriving DecidableEq, Repr

/-- A test of one character. -/
inductive CharTest
  /-- Any character, or any but a line feed. -/
  | any (lineFeed : Bool)
  | code (n : Nat) (negated : Bool) (folding : Folding)
  | set (members : List Member) (negated ascii : Bool) (folding : Folding)
  deriving DecidableEq, Repr

/-- The form in which letters are compared. -/
def Folding.small : Folding → Nat → Nat
  | .exact, n => n
  | .ascii, n => LetterCase.lowerAscii n
  | .full, n => LetterCase.lower n

/-- Whether a code point has two cases as far as the folding goes. -/
def Folding.isCased : Folding → Nat → Bool
  | .exact, _ => false
  | .ascii, n => LetterCase.isCasedAscii n
  | .full, n => LetterCase.isCased n

/-- The small letters that are equal to a small letter. -/
def Folding.equals : Folding → Nat → List Nat
  | .full, n => LetterCase.kin n
  | _, n => [n]

/-- Up to here, sets are resolved code point by code point; above it, letters in a set are compared
by their own small letter and capital. -/
def planeEnd : Nat := 0xFFFF

/-- Whether a member names something with two cases. -/
def Member.isCased (folding : Folding) : Member → Bool
  | .code n => folding ≠ .exact && (planeEnd < n || folding.isCased n)
  | .range low high =>
    match folding with
    | .exact => false
    | .ascii => planeEnd < high || LetterCase.hasCasedAscii low high
    | .full => planeEnd < high || LetterCase.hasCased low high
  | .category _ _ => false

/-- Whether a member may name something with two cases: beyond `planeEnd`, ranges are not looked
through. -/
def Member.mayBeCased (folding : Folding) : Member → Bool
  | .code n => folding.isCased n
  | .range low high => (Member.range low high).isCased folding
  | .category _ _ => false

/-- Whether a set has a member that names something with two cases. -/
def Members.isCased (folding : Folding) (ms : List Member) : Bool :=
  ms.any (·.isCased folding)

/-- Membership of a code point as it is. -/
def Member.has (ascii : Bool) (n : Nat) : Member → Bool
  | .code m => n = m
  | .range low high => low ≤ n && n ≤ high
  | .category k negated => k.has ascii (Char.ofNat n) != negated

/-- Membership of a small letter, when case is ignored. -/
def Member.hasSmall (ascii : Bool) (folding : Folding) (n : Nat) : Member → Bool
  | .code m => if planeEnd < m then n = m else (folding.equals n).contains (folding.small m)
  | .range low high =>
    let capitals (small : Nat) : List Nat :=
      match folding with
      | .full => LetterCase.loweredFrom small
      | _ => if LetterCase.isCasedAscii small then [small, small - 32] else [small]
    let within (m : Nat) : Bool := low ≤ m && m ≤ min high planeEnd
    ((folding.equals n).any fun small => (capitals small).any within) ||
      (planeEnd < high &&
        ((low ≤ n && n ≤ high) || (low ≤ LetterCase.upper n && LetterCase.upper n ≤ high)))
  | .category k negated => k.has ascii (Char.ofNat n) != negated

namespace CharTest

/-- Whether one character passes the test, and it is compared as it is. -/
def isFixed : CharTest → Bool
  | code n negated folding => !negated && !folding.isCased n
  | _ => false

/-- Whether the test compares small letters with a set of them. -/
def isFolded : CharTest → Bool
  | any _ => false
  | code n _ folding => folding.isCased n && 1 < (folding.equals (folding.small n)).length
  | set members _ _ folding => Members.isCased folding members

/-- Whether the test can be made before anything else is: it is for one character or for a set, in
which case does not count. -/
def isDirect : CharTest → Bool
  | set members _ _ folding => !Members.isCased folding members
  | test => test.isFixed

end CharTest

/-- Whether a character passes the test. -/
def CharTest.passes (c : Char) : CharTest → Bool
  | .any lineFeed => lineFeed || c ≠ '\n'
  | .code n negated folding =>
    let equal :=
      if folding.isCased n then (folding.equals (folding.small n)).contains (folding.small c.toNat)
      else c.toNat = n
    equal != negated
  | .set members negated ascii folding =>
    let inside :=
      if Members.isCased folding members then
        members.any (·.hasSmall ascii folding (folding.small c.toNat))
      else members.any (·.has ascii c.toNat)
    inside != negated

end StyleBuild.Pattern
