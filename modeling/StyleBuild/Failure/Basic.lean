import StyleBuild.Number.Digits
import StyleBuild.Text.Utf8
import StyleBuild.Failure.Problem

/-!
# Failures

Anything that ends an operation early is a `Fault`: a `Problem` that the build step words itself, or
something that went wrong below it and is passed on.

A `Failure` is a fault that is under way.  The same refusal of an import can be passed on by the
compiler, replaced by an error of the compiler's own, and raised again later, so a failure knows
which refusal it is (`refusal`), and what it was raised from (`causes`).  Two failures are the same
one exactly when both are the same refusal.
-/

namespace StyleBuild

/-- What ends an operation. -/
inductive Fault
  | problem (p : Problem)
  /-- Content was read that was never loaded. -/
  | unloaded (path : Text)
  /-- Storage or the compiler broke down with a text of its own. -/
  | crash (text : Text)
  /-- Bytes that are no text. -/
  | undecodable (f : Utf8.Fault)
  /-- The compiler's own report, not yet read. -/
  | report (text : Text)
  /-- A value that no number, date or mode can be made of, with the reason. -/
  | badValue (text : Text)
  /-- A number beyond what the machine counts with. -/
  | overflow
  /-- A scalar without the character that decides its reading. -/
  | emptyScalar
  /-- A scalar that is none of the words for a truth value. -/
  | unknownWord
  /-- A scalar that is no date. -/
  | noDate
  /-- A mapping where a date is read. -/
  | misplacedDate
  /-- A pattern found a text in which one of its groups ends before it begins. -/
  | tornMatch
  deriving DecidableEq, Repr

namespace Fault

/-- The wording of a fault. -/
def message : Fault → Text
  | .problem p => p.message
  | .unloaded path => "Content of ".toList ++ path ++ " has not been loaded".toList
  | .crash text => text
  | .undecodable f => f.message
  | .report text => text
  | .badValue text => text
  | .overflow => "the repetition number is too large".toList
  | .emptyScalar => "string index out of range".toList
  | .unknownWord => "unknown word".toList
  | .noDate => "no date".toList
  | .misplacedDate => "a mapping is no date".toList
  | .tornMatch => "a group ends before it begins".toList

/-- A diagnosis that ends an operation. -/
def diagnosed (d : Diagnosis) : Fault := .problem (.compiler d)

/-- What the fault says about a stylesheet, if it is about one. -/
def diagnosis? : Fault → Option Diagnosis
  | .problem p => p.diagnosis?
  | _ => none

/-- A numeral with more digits than are converted. -/
def tooManyDigits (count : Nat) : Fault :=
  .badValue ("Exceeds the limit (".toList ++ Text.ofNat Digits.limit ++
    " digits) for integer string conversion: value has ".toList ++ Text.ofNat count ++
    " digits; use sys.set_int_max_str_digits() to increase the limit".toList)

end Fault

/-- A fault, and which refusal of an importer it is, if it is one. -/
structure Raised where
  fault : Fault
  refusal : Option Nat
  deriving DecidableEq, Repr

/-- A fault under way, with the chain of what it was raised from, nearest first. -/
structure Failure where
  raised : Raised
  causes : List Raised
  deriving DecidableEq, Repr

namespace Failure

/-- A fault that is no refusal and has no cause. -/
def ofFault (fault : Fault) : Failure := ⟨⟨fault, none⟩, []⟩

def fault (f : Failure) : Fault := f.raised.fault

/-- Whether a link of a chain is the given refusal. -/
def isRefusal (n : Option Nat) (r : Raised) : Bool := n.isSome && r.refusal = n

/-- A failure raised while another one was handled.  The chain ends before it comes back to the
failure itself. -/
def raisedFrom (raised : Raised) (cause : Failure) : Failure :=
  ⟨raised, (cause.raised :: cause.causes).takeWhile fun r => !isRefusal raised.refusal r⟩

end Failure

end StyleBuild
