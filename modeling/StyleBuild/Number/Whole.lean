import StyleBuild.Number.Digits

/-!
# Written whole numbers

A whole number may be written plainly, as digits without a zero in front and with no sign but a
minus.  If it is not, it is made plain (`cleaned`): blanks around it, a plus sign, zeros in front,
single underscores between digits and a fraction that consists of zeros only are taken away.

Only a number that is written plainly from the start can be too long; one that had to be made plain
is then just not readable.
-/

namespace StyleBuild.Whole

/-- Why a text is no whole number. -/
inductive Refusal
  | malformed
  | tooLong
  deriving DecidableEq, Repr

/-! ## Plain numerals -/

/-- A minus sign, if there is one, and the rest. -/
def cutMinus : Text → Bool × Text
  | '-' :: r => (true, r)
  | t => (false, t)

/-- Reads a plain numeral.  The length counts with the sign, up to what is no digit, and before the
rest is looked at. -/
def plain (t : Text) : Except Refusal Int :=
  let (negative, unsigned) := cutMinus t
  let digits := unsigned.takeWhile CharClass.isAsciiDigit
  if digits.head? = some '0' then if unsigned = ['0'] then .ok 0 else .error .malformed
  else if Digits.limit < digits.length + (if negative then 1 else 0) then .error .tooLong
  else if digits = [] || digits.length ≠ unsigned.length then .error .malformed
  else .ok (if negative then -(Digits.ofDecimals digits : Int) else Digits.ofDecimals digits)

/-! ## Making a numeral plain -/

/-- Drops zeros, and underscores after them, in front of a digit or a minus sign; one character of
them stays where nothing or a point follows. -/
def dropZeros : Text → Option Text
  | '0' :: r =>
    let last := ((r.takeWhile fun c => c = '0' || c = '_').getLast?).getD '0'
    match r.dropWhile fun c => c = '0' || c = '_' with
    | [] => some [last]
    | c :: rest =>
      if c = '.' then some (last :: c :: rest)
      else if CharClass.isAsciiDigit c || c = '-' then some (c :: rest)
      else none
  | c :: r => if CharClass.isAsciiDigit c || c = '-' then some (c :: r) else none
  | [] => none

/-- Drops a fraction of zeros. -/
def dropFraction (t : Text) : Text :=
  match Text.cutFirst '.' t with
  | (whole, some fraction) => if fraction ≠ [] ∧ fraction.all (· = '0') then whole else t
  | (_, none) => t

/-- Whether no two underscores stand side by side. -/
def singleUnderscores : Text → Bool
  | '_' :: '_' :: _ => false
  | _ :: r => singleUnderscores r
  | [] => true

/-- Drops single underscores between other characters. -/
def dropUnderscores (t : Text) : Text :=
  if t.head? ≠ some '_' && t.getLast? ≠ some '_' && singleUnderscores t then t.filter (· ≠ '_')
  else t

/-- The plain form of a numeral without sign. -/
def cleanedUnsigned (t : Text) : Option Text :=
  (dropZeros t).map fun t => dropUnderscores (dropFraction t)

/-- The plain form of a numeral. -/
def cleaned (t : Text) : Option Text :=
  match Text.trimBoth CharClass.isSpace t with
  | '-' :: t => (cleanedUnsigned t).map ('-' :: ·)
  | '+' :: '-' :: _ => none
  | '+' :: t => cleanedUnsigned t
  | t => cleanedUnsigned t

/-- Reads a whole number. -/
def ofText (t : Text) : Except Refusal Int :=
  match plain t with
  | .error .malformed =>
    match (cleaned t).map plain with
    | some (.ok n) => .ok n
    | _ => .error .malformed
  | r => r

end StyleBuild.Whole
