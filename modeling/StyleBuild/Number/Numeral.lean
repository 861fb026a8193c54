import StyleBuild.Failure.Basic
import StyleBuild.Number.Digits
import StyleBuild.Number.Double
import StyleBuild.Text.LetterCase
import StyleBuild.Text.Quoted

/-!
# Numerals

Reading numbers that are written in full: whole numbers in a base, and decimal numbers with a
fraction and an exponent.  Blanks around a number and a sign in front of it do not matter, and the
decimal digits of every script are digits.

A numeral that is none is a `badValue` that quotes it.
-/

namespace StyleBuild.Numeral

/-- The value of a character as a digit in a base up to sixteen. -/
def digitIn? (base : Nat) (c : Char) : Option Nat :=
  ((CharClass.digitValue? c).orElse fun _ => Digits.hex? c).filter (· < base)

/-- A sign, if there is one, and the rest. -/
def cutSign : Text → Bool × Text
  | '-' :: r => (true, r)
  | '+' :: r => (false, r)
  | t => (false, t)

/-! ## Whole numbers -/

/-- The letters that mark a base after a zero. -/
def marks : Nat → List Char
  | 2 => ['b', 'B']
  | 8 => ['o', 'O']
  | 16 => ['x', 'X']
  | _ => []

/-- Drops the mark of a base. -/
def dropMark (base : Nat) : Text → Text
  | '0' :: c :: r => if (marks base).contains c then r else '0' :: c :: r
  | t => t

/-- How much of a numeral a message quotes. -/
def quotedLength : Nat := 200

/-- Reads a whole number.  Only decimal numerals are limited in length, since the digits of the
other bases are bits of the number; the length counts before what follows the digits is looked
at. -/
def whole (base : Nat) (t : Text) : Except Fault Int :=
  let (negative, unsigned) := cutSign (Text.trimBoth CharClass.isSpace t)
  let numeral := dropMark base unsigned
  let length := (numeral.takeWhile fun c => (digitIn? base c).isSome).length
  if base = 10 && Digits.limit < length then .error (.tooManyDigits length)
  else match numeral.mapM (digitIn? base) with
  | some (d :: ds) =>
    let magnitude : Int := Digits.value base (d :: ds)
    .ok (if negative then -magnitude else magnitude)
  | _ => .error (.badValue ("invalid literal for int() with base ".toList ++ Text.ofNat base ++
      ": ".toList ++ (Text.quoted t).take quotedLength))

/-! ## Decimal numbers -/

/-- An exponent, or nothing. -/
def exponent? : Text → Option Int
  | [] => some 0
  | e :: r =>
    if e = 'e' || e = 'E' then
      let (negative, digits) := cutSign r
      if digits = [] || !digits.all CharClass.isDecimal then none
      else some (if negative then -(Digits.ofDecimals digits : Int) else Digits.ofDecimals digits)
    else none

/-- A decimal number without its sign. -/
def magnitude? (negative : Bool) (t : Text) : Option Double :=
  let whole := t.takeWhile CharClass.isDecimal
  let rest := t.dropWhile CharClass.isDecimal
  let (fraction, rest) := match rest with
    | '.' :: r => (r.takeWhile CharClass.isDecimal, r.dropWhile CharClass.isDecimal)
    | _ => ([], rest)
  if whole = [] && fraction = [] then none
  else (exponent? rest).map fun exponent =>
    Double.ofDecimal negative (Digits.ofDecimals (whole ++ fraction)) (exponent - fraction.length)

/-- Reads a decimal number, an infinity, or the word for no number. -/
def decimal (t : Text) : Except Fault Double :=
  let (negative, unsigned) := cutSign (Text.trimBoth CharClass.isSpace t)
  let word := LetterCase.lowerAsciiText unsigned
  if word = "inf".toList || word = "infinity".toList then .ok (.infinite negative)
  else if word = "nan".toList then .ok .nan
  else match magnitude? negative unsigned with
    | some x => .ok x
    | none => .error (.badValue ("could not convert string to float: ".toList ++ Text.quoted t))

end StyleBuild.Numeral
