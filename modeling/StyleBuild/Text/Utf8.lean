import StyleBuild.Text.Basic

/-!
# UTF-8

Stylesheets and settings files arrive as bytes.  `decode` reads them strictly: no overlong forms, no
surrogates, nothing above U+10FFFF.  The first byte that cannot be read ends the decoding with a
`Fault`, which keeps where the bad sequence starts and how many of its bytes belong together, since
both are part of what is reported.
-/

namespace StyleBuild.Utf8

/-- What is wrong with a byte sequence. -/
inductive Flaw
  /-- The byte can start no sequence. -/
  | start
  /-- A byte inside the sequence is out of its range. -/
  | continuation
  /-- The bytes end inside the sequence. -/
  | truncated
  deriving DecidableEq, Repr

/-- The first byte sequence that cannot be read: its flaw, its first byte, where it starts, and how
many of its bytes were read before the flaw showed. -/
structure Fault where
  flaw : Flaw
  lead : UInt8
  position : Nat
  length : Nat
  deriving DecidableEq, Repr

/-- The wording for a flaw. -/
def Flaw.message : Flaw → Text
  | .start => "invalid start byte".toList
  | .continuation => "invalid continuation byte".toList
  | .truncated => "unexpected end of data".toList

/-- One byte is named by its value, several by their positions. -/
def Fault.message (f : Fault) : Text :=
  let what :=
    if f.length = 1 then
      "byte 0x".toList ++ Text.hex 2 f.lead.toNat ++ " in position ".toList ++ Text.ofNat f.position
    else
      "bytes in position ".toList ++ Text.ofNat f.position ++ '-' ::
        Text.ofNat (f.position + f.length - 1)
  "'utf-8' codec can't decode ".toList ++ what ++ ": ".toList ++ f.flaw.message

/-- A byte that may stand inside a sequence. -/
def isContinuation (b : UInt8) : Bool := 0x80 ≤ b && b ≤ 0xBF

/-- The six bits that a byte inside a sequence carries. -/
def payload (b : UInt8) : Nat := b.toNat % 64

/-- Whether the second byte is in the range that the first one leaves it: this keeps out overlong
forms, surrogates, and everything above U+10FFFF. -/
def admitsSecond (lead second : UInt8) : Bool :=
  isContinuation second &&
    (if lead = 0xE0 then 0xA0 ≤ second
     else if lead = 0xED then second < 0xA0
     else if lead = 0xF0 then 0x90 ≤ second
     else if lead = 0xF4 then second < 0x90
     else true)

/-- Reads `bytes`, which start at `position` in the whole input. -/
def decodeFrom (position : Nat) : (bytes : Bytes) → Except Fault Text
  | [] => .ok []
  | a :: rest =>
    let fail (flaw : Flaw) (length : Nat) : Except Fault Text := .error ⟨flaw, a, position, length⟩
    if a < 0x80 then
      (decodeFrom (position + 1) rest).map (Char.ofNat a.toNat :: ·)
    else if a < 0xC2 || 0xF4 < a then fail .start 1
    else match rest with
      | [] => fail .truncated 1
      | b :: rest =>
        if !admitsSecond a b then fail .continuation 1
        else if a < 0xE0 then
          (decodeFrom (position + 2) rest).map
            (Char.ofNat (a.toNat % 32 * 64 + payload b) :: ·)
        else match rest with
          | [] => fail .truncated 2
          | c :: rest =>
            if !isContinuation c then fail .continuation 2
            else if a < 0xF0 then
              (decodeFrom (position + 3) rest).map
                (Char.ofNat ((a.toNat % 16 * 64 + payload b) * 64 + payload c) :: ·)
            else match rest with
              | [] => fail .truncated 3
              | d :: rest =>
                if !isContinuation d then fail .continuation 3
                else
                  (decodeFrom (position + 4) rest).map
                    (Char.ofNat (((a.toNat % 8 * 64 + payload b) * 64 + payload c) * 64
                      + payload d) :: ·)

/-- Reads bytes as text, or says which sequence is the first that cannot be read. -/
def decode (bytes : Bytes) : Except Fault Text := decodeFrom 0 bytes

/-- The bytes of a text. -/
def encode (t : Text) : Bytes := t.flatMap String.utf8EncodeChar

end StyleBuild.Utf8
