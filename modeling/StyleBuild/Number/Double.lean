import StyleBuild.Text.Basic

/-!
# Double-precision numbers, exactly

A settings value may be a number with a fraction.  The settings ask only whether such a number is
whole and which whole number it is, so doubles are kept as what they are, a 53-bit mantissa times a
power of two, and every question about them is one about integers.

* `ofRatio` is the rounding that every way of making a double goes through: to the nearest double,
  ties to the even mantissa.
* `toInt?` reads a whole double back.
-/

namespace StyleBuild

/-- A double: `mantissa * 2 ^ exponent` with its sign, an infinity, or no number at all. -/
inductive Double
  | finite (negative : Bool) (mantissa : Nat) (exponent : Int)
  | infinite (negative : Bool)
  | nan
  deriving DecidableEq, Repr

namespace Double

/-- Mantissas stay below this. -/
def mantissaBound : Nat := Nat.pow 2 53

/-- The exponent of the smallest positive double. -/
def leastExponent : Int := -1074

/-- The exponent of the largest finite doubles. -/
def greatestExponent : Int := 971

/-- The two sides of `num / den = q * 2 ^ exponent`, as a fraction for `q`. -/
def scaled (num den : Nat) (exponent : Int) : Nat × Nat :=
  if exponent < 0 then (num * Nat.pow 2 (-exponent).toNat, den)
  else (num, den * Nat.pow 2 exponent.toNat)

/-- The quotient rounded to the nearest whole number, a half to the even neighbour. -/
def roundDiv (num den : Nat) : Nat :=
  let q := num / den
  let r := num % den
  if 2 * r < den then q else if den < 2 * r then q + 1 else q + q % 2

/-- The double nearest to `num / den`. -/
def ofRatio (negative : Bool) (num den : Nat) : Double :=
  if num = 0 then .finite negative 0 leastExponent
  else
    let guess : Int := (Nat.log2 num : Int) - (Nat.log2 den : Int) - 53
    let low := scaled num den guess
    let exponent := max leastExponent (if low.1 / low.2 < mantissaBound then guess else guess + 1)
    let fraction := scaled num den exponent
    let mantissa := roundDiv fraction.1 fraction.2
    let normal := if mantissa = mantissaBound then (mantissa / 2, exponent + 1)
      else (mantissa, exponent)
    if greatestExponent < normal.2 then .infinite negative
    else .finite negative normal.1 normal.2

/-- The double nearest to `digits * 10 ^ exponent`. -/
def ofDecimal (negative : Bool) (digits : Nat) (exponent : Int) : Double :=
  if digits = 0 then .finite negative 0 leastExponent
  -- Far outside the range the answer is known, and the powers of ten would be huge.
  else if 400 < exponent then .infinite negative
  else if exponent < -(400 + (Nat.log2 digits : Int)) then .finite negative 0 leastExponent
  else if exponent < 0 then ofRatio negative digits (Nat.pow 10 (-exponent).toNat)
  else ofRatio negative (digits * Nat.pow 10 exponent.toNat) 1

/-- The double nearest to an integer. -/
def ofInt (n : Int) : Double := ofRatio (decide (n < 0)) n.natAbs 1

/-- The whole number that a double is, if it is one. -/
def toInt? : Double → Option Int
  | .finite negative mantissa exponent =>
    let sign (n : Nat) : Int := if negative then -(n : Int) else n
    if 0 ≤ exponent then some (sign (mantissa * Nat.pow 2 exponent.toNat))
    else
      let unit := Nat.pow 2 (-exponent).toNat
      if mantissa % unit = 0 then some (sign (mantissa / unit)) else none
  | _ => none

/-- The exact value of a finite double as a fraction. -/
def toRatio? : Double → Option (Int × Nat)
  | .finite negative mantissa exponent =>
    let sign (n : Nat) : Int := if negative then -(n : Int) else n
    if 0 ≤ exponent then some (sign (mantissa * Nat.pow 2 exponent.toNat), 1)
    else some (sign mantissa, Nat.pow 2 (-exponent).toNat)
  | _ => none

/-- The opposite number. -/
def neg : Double → Double
  | .finite negative mantissa exponent => .finite (!negative) mantissa exponent
  | .infinite negative => .infinite (!negative)
  | .nan => .nan

/-- The double nearest to the fraction `num / den`, whose sign is that of `num`. -/
def ofFraction (num : Int) (den : Nat) : Double := ofRatio (decide (num < 0)) num.natAbs den

/-- The rounded sum; the sum of opposite infinities is no number. -/
def add (x y : Double) : Double :=
  match x.toRatio?, y.toRatio? with
  | some (a, b), some (c, d) => ofFraction (a * d + c * b) (b * d)
  | none, some _ => x
  | some _, none => y
  | none, none => if x = y then x else nan

/-- The rounded product of a double and a positive finite one, whose product with an infinity is
that infinity. -/
def scale (x unit : Double) : Double :=
  match x.toRatio?, unit.toRatio? with
  | some (a, b), some (c, d) => ofFraction (a * c) (b * d)
  | _, _ => x

/-- The double nearest to a natural number, unless that is an infinity. -/
def ofNat? (n : Nat) : Option Double :=
  match ofRatio false n 1 with
  | infinite _ => none
  | x => some x

end Double

end StyleBuild
