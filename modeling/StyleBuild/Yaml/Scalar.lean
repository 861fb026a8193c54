import StyleBuild.Number.Numeral
import StyleBuild.Settings.Value
import StyleBuild.Text.Base64
import StyleBuild.Yaml.Date
import StyleBuild.Yaml.Token

/-!
# The values of scalars

A scalar is read by its tag.  A tag that was found by the form of the text fits it nearly always; a
tag that was written in the document may not, and then the fault says in which way the reading broke
down.  Bytes that are not written properly, and tags that no scalar has, make the document
malformed.
-/

namespace StyleBuild.Yaml.Tag

/-- Numerals may have underscores anywhere. -/
def dropUnderscores (t : Text) : Text := t.filter (· ≠ '_')

/-- The number of seconds, or of sixtieths of a degree, that parts below sixty make up. -/
def ofSixtieths (parts : List Int) : Int := parts.foldl (fun n part => n * 60 + part) 0

/-- The same for parts that may have fractions, the last part first.  The unit of each part, the
product with it, and the sum are rounded, and there is no value if a unit is too large. -/
def ofFractionalSixtieths (unit : Nat) (sum : Double) : List Double → Except Fault Double
  | [] => .ok sum
  | part :: rest =>
    match Double.ofNat? unit with
    | none => .error .overflow
    | some u => ofFractionalSixtieths (unit * 60) (sum.add (part.scale u)) rest

/-- A whole number without its sign; its first characters say in which base it is written. -/
def readMagnitude : Text → Except Fault Int
  | [] => .error .emptyScalar
  | '0' :: [] => .ok 0
  | '0' :: 'b' :: r => Numeral.whole 2 r
  | '0' :: 'x' :: r => Numeral.whole 16 r
  | '0' :: r => Numeral.whole 8 ('0' :: r)
  | t =>
    if t.contains ':' then ofSixtieths <$> (Text.splitOn ':' t).mapM (Numeral.whole 10)
    else Numeral.whole 10 t

def readInt (t : Text) : Except Fault Int :=
  match dropUnderscores t with
  | [] => .error .emptyScalar
  | t =>
    let (negative, unsigned) := Numeral.cutSign t
    (fun n => if negative then -n else n) <$> readMagnitude unsigned

/-- How a number with a fraction is written in the end. -/
def plainFloat (t : Text) : Text := LetterCase.lowerAsciiText (dropUnderscores t)

/-- Whether a text is the form of what is no number. -/
def isNotNumber (t : Text) : Bool := (Numeral.cutSign (plainFloat t)).2 = ".nan".toList

def readFloat (t : Text) : Except Fault Double :=
  match plainFloat t with
  | [] => .error .emptyScalar
  | t =>
    let (negative, unsigned) := Numeral.cutSign t
    (fun (x : Double) => if negative then x.neg else x) <$>
      if unsigned = ".inf".toList then .ok (.infinite false)
      else if unsigned = ".nan".toList then .ok .nan
      else if unsigned.contains ':' then do
        let parts ← (Text.splitOn ':' unsigned).mapM Numeral.decimal
        ofFractionalSixtieths 1 (Double.ofInt 0) parts.reverse
      else Numeral.decimal unsigned

/-- A truth value in words; with a tag that was written, in any case. -/
def readBool (t : Text) : Except Fault Bool :=
  let word := LetterCase.lowerAsciiText t
  if trueWords.contains word then .ok true
  else if falseWords.contains word then .ok false
  else .error .unknownWord

def readBinary (t : Text) : Except Refusal Bytes :=
  if t.all fun c => c.toNat < 0x80 then
    match Base64.decode t with
    | some b => .ok b
    | none => .error .malformed
  else .error .malformed

def readStamp (t : Text) : Except Fault Scalar :=
  match stamp? (beforeBreak t) with
  | some s => do
    let (shown, moment) ← Date.read s
    return .stamp shown moment
  | none => .error .noDate

/-- The value of a scalar with the given tag. -/
def readScalar (tag : Tag) (t : Text) : Except Refusal Scalar :=
  match tag with
  | .null => .ok .null
  | .str => .ok (.text t)
  | .bool => (Scalar.bool <$> readBool t).mapError .fault
  | .int => (Scalar.int <$> readInt t).mapError .fault
  | .float => (Scalar.float <$> readFloat t).mapError .fault
  | .timestamp => (readStamp t).mapError .fault
  | .binary => Scalar.bytes <$> readBinary t
  | _ => .error .malformed

end StyleBuild.Yaml.Tag
