import StyleBuild.Text.CharClass

/-!
# Base 64

Bytes written with 64 letters, six bits each.  Other characters may stand between the letters, as
line ends do in a long text, and mean nothing.  Equals signs fill up the last group of four; what
follows them is not read.
-/

namespace StyleBuild.Base64

/-- The six bits of a letter. -/
def letter? (c : Char) : Option Nat :=
  if 'A' ≤ c && c ≤ 'Z' then some (c.toNat - 'A'.toNat)
  else if 'a' ≤ c && c ≤ 'z' then some (c.toNat - 'a'.toNat + 26)
  else if CharClass.isAsciiDigit c then some (c.toNat - '0'.toNat + 52)
  else if c = '+' then some 62
  else if c = '/' then some 63
  else none

/-- The whole bytes among the bits of up to four letters. -/
def bytes : List Nat → Bytes
  | [a, b] => [UInt8.ofNat (a * 4 + b / 16)]
  | [a, b, c] => [UInt8.ofNat (a * 4 + b / 16), UInt8.ofNat (b * 16 + c / 4)]
  | [a, b, c, d] =>
    [UInt8.ofNat (a * 4 + b / 16), UInt8.ofNat (b * 16 + c / 4), UInt8.ofNat (c * 64 + d)]
  | _ => []

/-- Reads a text on, after the letters of a group and a number of equals signs. -/
def decodeFrom (group : List Nat) (signs : Nat) : Text → Option Bytes
  | [] => if group = [] then some [] else none
  | c :: rest =>
    if c = '=' then
      if 2 ≤ group.length && 4 ≤ group.length + (signs + 1) then some (bytes group)
      else decodeFrom group (if 2 ≤ group.length then signs + 1 else signs) rest
    else match letter? c with
      | none => decodeFrom group signs rest
      | some bits =>
        if group.length = 3 then
          (decodeFrom [] 0 rest).map (bytes (group ++ [bits]) ++ ·)
        else decodeFrom (group ++ [bits]) 0 rest

/-- The bytes that a text writes; `none` if the last group is not full. -/
def decode (t : Text) : Option Bytes := decodeFrom [] 0 t

end StyleBuild.Base64
