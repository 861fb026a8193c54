/-!
# Text and bytes

Every path, specifier, message and stylesheet in this library is a list of characters.  Paths are
taken apart from both ends, and a list says what a prefix is without positions: `p` is a prefix of
`t` when `t = p ++ r`, and then `r` is what is left.

* `after?` is that reading of prefixes, and `after?_eq_some_iff` says so.
* `splitOn` cuts a text at every occurrence of one character; it always gives at least one piece.
* `trimBoth` removes the characters of a class at both ends.
-/

namespace StyleBuild

/-- A text is the list of its characters. -/
abbrev Text := List Char

/-- File contents before they are decoded. -/
abbrev Bytes := List UInt8

namespace Text

/-! ## Prefixes -/

/-- What follows the prefix `p` in a text, if the text begins with `p`. -/
def after? : (p t : Text) → Option Text
  | [], t => some t
  | _ :: _, [] => none
  | a :: p, b :: t => if a = b then after? p t else none

/-- Whether a text begins with `p`. -/
def beginsWith (p t : Text) : Bool := (after? p t).isSome

theorem after?_eq_some_iff {p t r : Text} : after? p t = some r ↔ t = p ++ r := by
  induction p generalizing t with
  | nil => simp [after?, eq_comm]
  | cons a p ih =>
    cases t with
    | nil => simp [after?]
    | cons b t =>
      by_cases h : a = b
      · simp [after?, h, ih]
      · simp [after?, h, Ne.symm h]

theorem after?_append (p r : Text) : after? p (p ++ r) = some r :=
  after?_eq_some_iff.2 rfl

theorem after?_eq_none_iff {p t : Text} : after? p t = none ↔ ¬ p <+: t := by
  simp only [Option.eq_none_iff_forall_ne_some, ne_eq, after?_eq_some_iff, List.IsPrefix,
    not_exists, @eq_comm _ t]

/-! ## Trimming -/

/-- Removes the characters that satisfy `p` from the end. -/
def dropTrailing (p : Char → Bool) (t : Text) : Text :=
  (t.reverse.dropWhile p).reverse

/-- Removes the characters that satisfy `p` from both ends. -/
def trimBoth (p : Char → Bool) (t : Text) : Text :=
  dropTrailing p (t.dropWhile p)

/-! ## Cutting and joining -/

/-- The pieces between the occurrences of `sep`; one piece more than there are occurrences. -/
def splitOn (sep : Char) : Text → List Text
  | [] => [[]]
  | c :: r =>
    if c = sep then [] :: splitOn sep r
    else match splitOn sep r with
      | [] => [[c]]
      | piece :: pieces => (c :: piece) :: pieces

/-- Cutting never gives the empty list: the empty text is one empty piece. -/
theorem splitOn_ne_nil (sep : Char) (t : Text) : splitOn sep t ≠ [] := by
  cases t with
  | nil => simp [splitOn]
  | cons c r =>
    unfold splitOn
    split
    · simp
    · split <;> simp

/-- The text before the first `sep` and, when there is one, the text after it. -/
def cutFirst (sep : Char) : Text → Text × Option Text
  | [] => ([], none)
  | c :: r =>
    if c = sep then ([], some r)
    else (c :: (cutFirst sep r).1, (cutFirst sep r).2)

/-- Puts `sep` between the pieces. -/
def joinWith (sep : Text) : List Text → Text
  | [] => []
  | [piece] => piece
  | piece :: pieces => piece ++ sep ++ joinWith sep pieces

/-! ## Order -/

/-- Order by code points; a prefix of a text is not after it. -/
def notAfter : Text → Text → Bool
  | [], _ => true
  | _ :: _, [] => false
  | a :: s, b :: t => a.toNat < b.toNat || (a = b && notAfter s t)

/-- A duplicate-free list of texts in the order of their code points. -/
def sorted (ts : List Text) : List Text := ts.eraseDups.mergeSort notAfter

/-! ## Numerals -/

/-- The decimal digits of a natural number. -/
def ofNat (n : Nat) : Text := Nat.toDigits 10 n

/-- The decimal digits of an integer, with a minus sign in front of a negative one. -/
def ofInt : Int → Text
  | .ofNat n => ofNat n
  | .negSucc n => '-' :: ofNat (n + 1)

/-- The lower-case hexadecimal digits of a number, at least `width` of them. -/
def hex (width n : Nat) : Text :=
  let digits := Nat.toDigits 16 n
  List.replicate (width - digits.length) '0' ++ digits

end Text

end StyleBuild
