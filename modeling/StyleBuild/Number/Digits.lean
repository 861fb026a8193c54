import StyleBuild.Text.CharClass

/-!
# Digits

The number that a row of digits writes, most significant digit first, and the rows that occur in
texts: hexadecimal digits, and decimal digits of every script.  A digit at the end of a row
multiplies the number by the base and is added to it: `value_append_singleton`.
-/

namespace StyleBuild.Digits

/-- The number whose digits in a base are given. -/
def value (base : Nat) (digits : List Nat) : Nat := digits.foldl (fun n d => n * base + d) 0

theorem value_append_singleton (base : Nat) (ds : List Nat) (d : Nat) :
    value base (ds ++ [d]) = value base ds * base + d := by
  simp [value]

/-- How many digits of a decimal numeral are converted at most. -/
def limit : Nat := 4300

/-- The value of a hexadecimal digit. -/
def hex? (c : Char) : Option Nat :=
  if CharClass.isAsciiDigit c then some (c.toNat - '0'.toNat)
  else if 'a' ≤ c && c ≤ 'f' then some (c.toNat - 'a'.toNat + 10)
  else if 'A' ≤ c && c ≤ 'F' then some (c.toNat - 'A'.toNat + 10)
  else none

def isHex (c : Char) : Bool := (hex? c).isSome

/-- The number that ASCII digits write in a base up to sixteen. -/
def ofAscii (base : Nat) (t : Text) : Nat := value base (t.filterMap hex?)

/-- The number that decimal digits write. -/
def ofDecimals (t : Text) : Nat := value 10 (t.filterMap CharClass.digitValue?)

end StyleBuild.Digits
