import StyleBuild.Number.Double

/-!
# The shortest numeral of a double

A double is written with the fewest digits that read back as the same double, and with the nearest
such digits.  On the grid of `n`-digit decimals, if any point reads back then so does one of the two
neighbours of the double, so it is enough to try those for `n = 1, 2, …, 17`.

The numeral is positional while the exponent of its first digit is between -4 and 15, and then has a
fraction, `.0` if need be; otherwise it has an exponent of at least two digits.
-/

namespace StyleBuild.Double

/-- The exponent of the first decimal digit of `num / den`. -/
def leadingExponent (num den : Nat) : Int :=
  if den ≤ num then ((Nat.toDigits 10 (num / den)).length : Int) - 1
  else
    -- `num / den < 1`: count the zeros by the digits of the inverse, then correct by one step.
    let guess : Nat := (Nat.toDigits 10 (den / num)).length
    if den ≤ num * Nat.pow 10 (guess - 1) then -((guess : Int) - 1) else -(guess : Int)

/-- The value `num / den` in units of `10 ^ unit`, as a fraction. -/
def inUnits (num den : Nat) (unit : Int) : Nat × Nat :=
  if unit < 0 then (num * Nat.pow 10 (-unit).toNat, den) else (num, den * Nat.pow 10 unit.toNat)

/-- The nearer of the two neighbours on the grid `10 ^ unit` that reads back as `m * 2 ^ e`. -/
def neighbour? (m : Nat) (e : Int) (num den : Nat) (unit : Int) : Option Nat :=
  let fraction := inUnits num den unit
  let below := fraction.1 / fraction.2
  let reads (d : Nat) : Bool := ofDecimal false d unit = .finite false m e
  let nearest := roundDiv fraction.1 fraction.2
  let other := if nearest = below then below + 1 else below
  if reads nearest then some nearest else if reads other then some other else none

/-- Tries the grids with `n`, `n + 1`, … digits, `fuel` of them. -/
def shortestFrom (m : Nat) (e : Int) (num den : Nat) (leading : Int) : Nat → Nat → Nat × Int
  | 0, _ => (m, e)
  | fuel + 1, n =>
    let unit := leading + 1 - n
    match neighbour? m e num den unit with
    | some d => (d, unit)
    | none => shortestFrom m e num den leading fuel (n + 1)

/-- Digits and the exponent of the last one. -/
def shortest (m : Nat) (e : Int) (num den : Nat) : Nat × Int :=
  shortestFrom m e num den (leadingExponent num den) 17 1

/-- The numeral for digits whose decimal point stands after `point` of them. -/
def numeral (digits : Text) (point : Int) : Text :=
  if -4 < point && point ≤ 16 then
    if point ≤ 0 then "0.".toList ++ List.replicate (-point).toNat '0' ++ digits
    else if digits.length ≤ point.toNat then
      digits ++ List.replicate (point.toNat - digits.length) '0' ++ ".0".toList
    else digits.take point.toNat ++ '.' :: digits.drop point.toNat
  else
    let exponent := point - 1
    let size := Text.ofNat exponent.natAbs
    let mark := if exponent < 0 then "e-".toList else "e+".toList
    let fraction := match digits with
      | [] => []
      | [d] => [d]
      | d :: ds => d :: '.' :: ds
    fraction ++ mark ++ (if size.length < 2 then '0' :: size else size)

/-- The shortest numeral that reads back as the double. -/
def text : Double → Text
  | .nan => "nan".toList
  | .infinite negative => if negative then "-inf".toList else "inf".toList
  | .finite negative mantissa exponent =>
    let sign : Text := if negative then ['-'] else []
    if mantissa = 0 then sign ++ "0.0".toList
    else match (Double.finite false mantissa exponent).toRatio? with
      | none => sign
      | some (num, den) =>
        let (d, unit) := shortest mantissa exponent num.natAbs den
        let digits := Text.ofNat d
        let point := (digits.length : Int) + unit
        sign ++ numeral (Text.dropTrailing (· = '0') digits) point

end StyleBuild.Double
