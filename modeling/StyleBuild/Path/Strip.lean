import StyleBuild.Path.Basic

/-!
# Removing a repeated token

`Strip.front`, `Strip.back` and `Strip.both` remove every repetition of a token at the ends of a
text.  A token may overlap itself, so a repetition is always a whole token next to the one removed
before, and the front is done before the back.  The empty token would be removed for ever, and is
refused.

For a token of one character this is trimming (`allFront_singleton`), so the functions on paths
simply drop separators, and `both_separator` says that this is the same.
-/

namespace StyleBuild.Strip

/-- The empty token cannot be removed. -/
inductive Refusal
  | emptyToken
  deriving DecidableEq, Repr

def Refusal.message : Refusal → Text
  | .emptyToken => "strip token must be a non-empty string".toList

/-- Removes `token` from the front at most `rounds` times. -/
def removeFront (token : Text) : (rounds : Nat) → Text → Text
  | 0, t => t
  | rounds + 1, t =>
    match Text.after? token t with
    | some rest => removeFront token rounds rest
    | none => t

/-- Removes every repetition of a non-empty token in front: there are at most as many as the text
has characters. -/
def allFront (token t : Text) : Text := removeFront token t.length t

/-- Removes every repetition at the end, which is the front of the reversed text. -/
def allBack (token t : Text) : Text := (allFront token.reverse t.reverse).reverse

/-- Removes every repetition of the token in front. -/
def front (t token : Text) : Except Refusal Text :=
  if token = [] then .error .emptyToken else .ok (allFront token t)

/-- Removes every repetition of the token at the end. -/
def back (t token : Text) : Except Refusal Text :=
  if token = [] then .error .emptyToken else .ok (allBack token t)

/-- Removes every repetition of the token at both ends, in front first. -/
def both (t token : Text) : Except Refusal Text :=
  if token = [] then .error .emptyToken else .ok (allBack token (allFront token t))

theorem removeFront_singleton (c : Char) (t : Text) (rounds : Nat) (h : t.length ≤ rounds) :
    removeFront [c] rounds t = t.dropWhile (· = c) := by
  induction rounds generalizing t with
  | zero =>
    obtain rfl : t = [] := List.length_eq_zero_iff.1 (by omega)
    rfl
  | succ n ih =>
    cases t with
    | nil => rfl
    | cons a t =>
      by_cases hc : c = a
      · subst hc
        simp only [List.length_cons] at h
        simp [removeFront, Text.after?, ih t (by omega)]
      · simp [removeFront, Text.after?, hc, Ne.symm hc]

/-- A token of one character is removed by dropping that character. -/
theorem allFront_singleton (c : Char) (t : Text) : allFront [c] t = t.dropWhile (· = c) :=
  removeFront_singleton c t t.length (Nat.le_refl _)

/-- Stripping separators is stripping the token that consists of one. -/
theorem both_separator (t : Text) : both t [Path.separator] = .ok (Path.strip t) := by
  simp [both, allBack, allFront_singleton, Path.strip, Path.stripBack, Path.stripFront,
    Text.dropTrailing]

end StyleBuild.Strip
