import StyleBuild.Number.Digits
import StyleBuild.Text.Utf8
import StyleBuild.Yaml.Cursor

/-!
# Anchors, tags and directives

The parts of a document that are made of names.
-/

namespace StyleBuild.Yaml.Scan

/-- A character of an anchor's or a handle's name. -/
def isNamePart (c : Char) : Bool := CharClass.isAsciiAlphanumeric c || c = '-' || c = '_'

/-- The name of an anchor or an alias, after its indicator. -/
def anchorName : Scan Text := do
  skip 1
  let name ← takeWhile isNamePart
  if name = [] then refuse
  let next ← peek
  if !isBlankOrEnd next && !next.any ['?', ':', ',', ']', '\x7d', '%', '@', '\x60'].contains then
    refuse
  return name

/-- A handle: a name between exclamation marks, or a single one with a space after it. -/
def tagHandle : Scan Text := do
  if (← peek) ≠ some '!' then refuse
  skip 1
  if (← peek) = some ' ' then return ['!']
  let name ← takeWhile isNamePart
  if (← peek) = some '!' then
    skip 1
    return '!' :: name ++ ['!']
  refuse

/-- Bytes written as a percent sign and two hexadecimal digits each. -/
def uriBytes : (fuel : Nat) → (soFar : Bytes) → Scan Bytes
  | 0, soFar => return soFar
  | fuel + 1, soFar => do
    if (← peek) = some '%' then
      skip 1
      let digits ← takeExactly 2 Digits.isHex
      uriBytes fuel (soFar ++ [UInt8.ofNat (Digits.ofAscii 16 digits)])
    else return soFar

/-- A character that stands for itself in a tag. -/
def isUriPart (c : Char) : Bool :=
  CharClass.isAsciiAlphanumeric c || "-;/?:@&=+$,_.!~*'()[]".toList.contains c

/-- Parts of a tag. -/
def uriParts : (fuel : Nat) → (soFar : Text) → Scan Text
  | 0, soFar => return soFar
  | fuel + 1, soFar => do
    let soFar := soFar ++ (← takeWhile isUriPart)
    if (← peek) = some '%' then
      match Utf8.decode (← uriBytes (← left) []) with
      | .ok t => uriParts fuel (soFar ++ t)
      | .error _ => refuse
    else return soFar

/-- The suffix of a tag, or a whole one. -/
def uri : Scan Text := do
  let u ← uriParts ((← left) + 1) []
  if u = [] then refuse
  return u

/-- A tag, from its exclamation mark on. -/
def tag : Scan Token := do
  let next ← peekAt 1
  let t ←
    if next = some '<' then do
      skip 2
      let suffix ← uri
      if (← peek) ≠ some '>' then refuse
      skip 1
      pure (Token.tag none suffix)
    else if isBlankOrEnd next then do
      skip 1
      pure (Token.tag none ['!'])
    else do
      let word := ((← get).rest.drop 1).takeWhile fun c => !isSpaceOrEnd (some c)
      if word.contains '!' then
        let handle ← tagHandle
        pure (Token.tag (some handle) (← uri))
      else
        skip 1
        pure (Token.tag (some ['!']) (← uri))
  if !isSpaceOrEnd (← peek) then refuse
  return t

/-! ## Directives -/

/-- A number of a version. -/
def versionNumber : Scan Nat := do
  let digits ← takeWhile CharClass.isAsciiDigit
  if digits = [] then refuse
  if Digits.limit < digits.length then throw (.fault (.tooManyDigits digits.length))
  return Digits.ofDecimals digits

def versionDirective : Scan Directive := do
  skipSpaces
  let major ← versionNumber
  if (← peek) ≠ some '.' then refuse
  skip 1
  let minor ← versionNumber
  if !isSpaceOrEnd (← peek) then refuse
  return .version major minor

def handleDirective : Scan Directive := do
  skipSpaces
  let handle ← tagHandle
  if (← peek) ≠ some ' ' then refuse
  skipSpaces
  let start ← uri
  if !isSpaceOrEnd (← peek) then refuse
  return .handle handle start

/-- A directive, from its percent sign through its line end. -/
def directive : Scan Directive := do
  skip 1
  let name ← takeWhile isNamePart
  if name = [] || !isSpaceOrEnd (← peek) then refuse
  let d ←
    if name = "YAML".toList then versionDirective
    else if name = "TAG".toList then handleDirective
    else do
      let _ ← takeWhile fun c => !isBreak c
      pure .other
  restOfLine
  return d

end StyleBuild.Yaml.Scan
