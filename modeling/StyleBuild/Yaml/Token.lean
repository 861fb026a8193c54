import StyleBuild.Failure.Basic

/-!
# YAML tokens

A settings file is one document of YAML 1.1.  This module holds its tokens and the classes of
characters that separate them.

Nothing is said about why a text is no YAML: it is `malformed`.  A refusal that is not about the
form of the text, such as an escape beyond the last code point, keeps its fault.
-/

namespace StyleBuild.Yaml

/-- Why a text cannot be read. -/
inductive Refusal
  | malformed
  | fault (e : Fault)
  deriving DecidableEq, Repr

/-- What a line that begins with a percent sign says about the document. -/
inductive Directive
  | version (major minor : Nat)
  /-- A handle stands for the beginning of tags. -/
  | handle (name start : Text)
  | other
  deriving DecidableEq, Repr

/-- The lexical units of YAML.  Blocks are bracketed like flow collections: their start and end are
found by indentation. -/
inductive Token
  | directive (d : Directive)
  | documentStart
  | documentEnd
  | blockSequenceStart
  | blockMappingStart
  | blockEnd
  | flowSequenceStart
  | flowSequenceEnd
  | flowMappingStart
  | flowMappingEnd
  | blockEntry
  | flowEntry
  | key
  | value
  /-- The node with an anchor, once more. -/
  | reference (name : Text)
  | anchor (name : Text)
  /-- A tag; without a handle it is written out in full. -/
  | tag (handle : Option Text) (suffix : Text)
  | scalar (text : Text) (plain : Bool)
  deriving DecidableEq, Repr

/-- The tokens of a text up to its end, or up to a fault; the fault counts only for a reader that
comes to it. -/
structure Tokens where
  list : List Token
  fault : Option Fault

/-- A character that ends a line. -/
def isBreak (c : Char) : Bool :=
  c = '\n' || c = '\r' || c.toNat = 0x85 || c.toNat = 0x2028 || c.toNat = 0x2029

/-- The end, a space, or a line end. -/
def isSpaceOrEnd : Option Char → Bool
  | none => true
  | some c => c = ' ' || isBreak c

/-- The end, a space, a tab, or a line end: what has to follow an indicator. -/
def isBlankOrEnd (c : Option Char) : Bool := isSpaceOrEnd c || c = some '\t'

/-- The end, or a line end. -/
def isBreakOrEnd : Option Char → Bool
  | none => true
  | some c => isBreak c

/-- The mark of byte order, which takes no room on a line. -/
def byteOrderMark : Char := Char.ofNat 0xFEFF

/-- A character that may occur in a document at all. -/
def isAllowed (c : Char) : Bool :=
  let n := c.toNat
  n = 0x09 || n = 0x0A || n = 0x0D || (0x20 ≤ n && n ≤ 0x7E) || n = 0x85 ||
    (0xA0 ≤ n && n ≤ 0xD7FF) || (0xE000 ≤ n && n ≤ 0xFFFD) || 0x10000 ≤ n

end StyleBuild.Yaml
