import StyleBuild.Pattern.CharTest

/-!
# Pattern syntax

A pattern as a tree.  All modes that a pattern can switch on and off, such as ignoring case, are
settled when the tree is built, so the tree means the same wherever it stands.

`Node.width` bounds the number of characters that a tree can match.  A tree that looks back has to
match a fixed number of them, because it is matched forwards from that many characters before.

A `Form` is a whole pattern: its tree, and what is known in advance about the places where a match
can begin.
-/

namespace StyleBuild.Pattern

/-- How many characters a tree can match, at least and at most. -/
structure Width where
  least : Nat
  most : Nat
  deriving DecidableEq, Repr

namespace Width

/-- An upper bound that stands for any number; lower bounds stay below it. -/
def limit : Nat := 4294967295

def zero : Width := ⟨0, 0⟩

def one : Width := ⟨1, 1⟩

/-- The bounds `least` and `most`, as far as they can be told from the limit. -/
def upTo (least most : Nat) : Width := ⟨min (limit - 1) least, min limit most⟩

/-- One after the other. -/
def add (v w : Width) : Width := upTo (v.least + w.least) (v.most + w.most)

/-- One or the other. -/
def either (v w : Width) : Width := ⟨min v.least w.least, max v.most w.most⟩

/-- A number of times; no upper bound is the limit, unless there is nothing to repeat. -/
def times (w : Width) (least : Nat) (most : Option Nat) : Width :=
  upTo (w.least * least) (w.most * most.getD limit)

end Width

/-- The order in which a repetition tries its numbers of rounds. -/
inductive Greed
  /-- More rounds first. -/
  | greedy
  /-- Fewer rounds first. -/
  | modest
  /-- As many rounds as possible, and no others. -/
  | possessive
  deriving DecidableEq, Repr

/-- A condition on a position. -/
inductive Anchor
  | textStart
  | lineStart
  /-- The end, or before a line feed that is the last character. -/
  | finish
  | lineEnd
  | textEnd
  | boundary (ascii : Bool)
  | noBoundary (ascii : Bool)
  deriving DecidableEq, Repr

/-- A pattern. -/
inductive Node
  | empty
  /-- No text at all. -/
  | never
  | char (test : CharTest)
  | seq (first second : Node)
  /-- An alternative and the others; the last of them is followed by `never`. -/
  | choice (first others : Node)
  /-- A part with modes of its own. -/
  | scope (body : Node)
  /-- Remembers what the body matched. -/
  | group (index : Nat) (body : Node)
  /-- What a group matched, again. -/
  | sameAs (index : Nat) (folding : Folding)
  | anchor (a : Anchor)
  /-- Whether the body matches from here on; nothing is consumed. -/
  | ahead (negated : Bool) (body : Node)
  /-- Whether the body matches the `width` characters before; nothing is consumed. -/
  | behind (negated : Bool) (width : Nat) (body : Node)
  /-- The first match of the body only. -/
  | atomic (body : Node)
  /-- A number of characters that pass a test. -/
  | chars (greed : Greed) (least : Nat) (most : Option Nat) (test : CharTest)
  | rounds (greed : Greed) (least : Nat) (most : Option Nat) (body : Node)
  /-- Depends on whether a group has matched. -/
  | whether (index : Nat) (yes no : Node)
  deriving Repr

namespace Node

/-- One after the other. -/
def ofList (ns : List Node) : Node := ns.foldr seq empty

/-- One or the other. -/
def ofAlternatives (ns : List Node) : Node := ns.foldr choice never

/-- The bounds on what a tree matches, given those of the groups that it refers to. -/
def width (groups : Nat → Width) : Node → Width
  | empty => .zero
  | never => ⟨Width.limit - 1, 0⟩
  | char _ => .one
  | seq a b => (a.width groups).add (b.width groups)
  | choice a b => (a.width groups).either (b.width groups)
  | scope body => body.width groups
  | group _ body => body.width groups
  | sameAs index _ => groups index
  | anchor _ => .zero
  | ahead _ _ => .zero
  | behind _ _ _ => .zero
  | atomic body => body.width groups
  | chars _ least most _ => Width.one.times least most
  | rounds _ least most body => (body.width groups).times least most
  | whether _ yes no => (yes.width groups).either (no.width groups)

/-- The test of a tree that consists of a single one. -/
def unit? : Node → Option CharTest
  | char test => some test
  | seq a empty => a.unit?
  | scope body => body.unit?
  | _ => none

/-! ## How a tree begins -/

/-- The test that the first character has to pass if nothing else is done before it; `next` is the
one after the tree. -/
def firstTest (next : Option CharTest) : Node → Option CharTest
  | empty => next
  | char test => if test.isDirect then some test else none
  | seq a b => a.firstTest (b.firstTest next)
  | scope body => body.firstTest next
  | _ => none

/-- Whether the tree begins with a fixed character, unless it matches nothing at all. -/
def beginsFixed? : Node → Option Bool
  | empty => none
  | char test => some test.isFixed
  | seq a b => a.beginsFixed?.or b.beginsFixed?
  | scope body => body.beginsFixed?
  | group _ body => body.beginsFixed?
  | _ => some false

/-- The fixed character that an alternative begins with. -/
def fixedCode? : Node → Option Nat
  | seq (char (.code n false folding)) _ => if folding.isCased n then none else some n
  | _ => none

/-- The fixed characters that alternatives begin with, if each does. -/
def fixedCodes? : Node → Option (List Nat)
  | choice a b => do return (← a.fixedCode?) :: (← b.fixedCodes?)
  | never => some []
  | _ => none

/-- The set that the first character must be in, if case does not count in it.  Classes are those of
the whole pattern, be they ASCII or not. -/
def firstSet? (ascii : Bool) : Node → Option CharTest
  | seq a _ => a.firstSet? ascii
  | scope body => body.firstSet? ascii
  | group _ body => body.firstSet? ascii
  | char (.set members negated _ folding) =>
    if members.any (·.mayBeCased folding) then none else some (.set members negated ascii .exact)
  | choice a b => (fixedCodes? (choice a b)).map fun ns =>
    .set (ns.map Member.code) false ascii .exact
  | _ => none

end Node

/-- Where a match can begin. -/
inductive Beginning
  /-- Where at most one of the given number of characters is missing. -/
  | roomy (least : Nat)
  /-- At every place. -/
  | everywhere
  /-- Before a character that passes a test. -/
  | before (test : CharTest)
  deriving DecidableEq, Repr

/-- A whole pattern. -/
structure Form where
  root : Node
  /-- The least number of characters that a text must have. -/
  least : Nat
  beginning : Beginning
  deriving Repr

/-- The form of a tree, given the widths of its groups and whether classes are ASCII. -/
def Form.ofNode (groups : Nat → Width) (ascii : Bool) (root : Node) : Form :=
  let least := (root.width groups).least
  { root, least, beginning :=
      if least = 0 then .roomy 0
      else if root.beginsFixed? = some true then .everywhere
      else match root.firstSet? ascii with
        | some test => .before test
        | none => .roomy least }

end StyleBuild.Pattern
