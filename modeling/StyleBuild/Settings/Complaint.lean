import StyleBuild.Text.Quoted
import StyleBuild.Failure.Basic
import StyleBuild.Settings.Basic

/-!
# What can be wrong with a setting

A complaint is a reason at a place; the place is the name of the setting, followed by what leads to
the part of it that is wrong.
-/

namespace StyleBuild

/-- The first entry of a substitution table that makes it ambiguous, with the key as written. -/
inductive TableFlaw
  /-- Nothing is left of the key without its separators. -/
  | emptyKey (raw : Text)
  /-- An earlier entry has the same key. -/
  | repeatedKey (raw key : Text)
  deriving DecidableEq, Repr

namespace TableFlaw

/-- The wording, for the table with the given name. -/
def message (table : Text) : TableFlaw → Text
  | .emptyKey raw => table ++ " keys must name a path, got ".toList ++ Text.quoted raw
  | .repeatedKey raw key =>
    table ++ " key ".toList ++ Text.quoted raw ++ " duplicates ".toList ++ Text.quoted key

end TableFlaw

/-- Why a setting cannot be used. -/
inductive Reason
  | notText
  | undecodableText
  | notMapping
  | notFlag
  | unknownFlag
  | notSequence
  | notPattern
  | notPatternText
  | malformedPattern
  | patternDigits (count : Nat)
  | patternModes
  | badTable (table : Text) (flaw : TableFlaw)
  | badSuffix
  | unknownStyle
  | notWhole
  | unreadableWhole
  | tooLongWhole
  | fraction
  | notFinite
  | belowOne
  deriving DecidableEq, Repr

namespace Reason

/-- The wording of a reason. -/
def message : Reason → Text
  | .notText => "Input should be a valid string".toList
  | .undecodableText =>
    "Input should be a valid string, unable to parse raw data as a unicode string".toList
  | .notMapping => "Input should be a valid dictionary".toList
  | .notFlag => "Input should be a valid boolean".toList
  | .unknownFlag => "Input should be a valid boolean, unable to interpret input".toList
  | .notSequence => "Input should be a valid tuple".toList
  | .notPattern => "Input should be a valid pattern".toList
  | .notPatternText => "Input should be a string pattern".toList
  | .malformedPattern => "Input should be a valid regular expression".toList
  | .patternDigits count => "Value error, ".toList ++ (Fault.tooManyDigits count).message
  | .patternModes => "Value error, ASCII and UNICODE flags are incompatible".toList
  | .badTable table flaw => "Value error, ".toList ++ flaw.message table
  | .badSuffix => "Value error, rename must be true or a non-empty suffix string".toList
  | .unknownStyle => "Value error, output_style must be one of ".toList ++
      Text.joinWith ", ".toList (OutputStyle.all.map OutputStyle.name)
  | .notWhole => "Input should be a valid integer".toList
  | .unreadableWhole =>
    "Input should be a valid integer, unable to parse string as an integer".toList
  | .tooLongWhole =>
    "Unable to parse input string as an integer, exceeded maximum size".toList
  | .fraction => "Input should be a valid integer, got a number with a fractional part".toList
  | .notFinite => "Input should be a finite number".toList
  | .belowOne => "Input should be greater than or equal to 1".toList

end Reason

/-- A reason at a place. -/
structure Complaint where
  place : List Text
  reason : Reason
  deriving DecidableEq, Repr

/-- The place, its parts joined by dots, and the reason. -/
def Complaint.message (c : Complaint) : Text :=
  Text.joinWith ['.'] c.place ++ ": ".toList ++ c.reason.message

end StyleBuild
