import StyleBuild.Path.Basic

/-!
# Swapping the front of a path

A rule has a prefix and a replacement for it.  There are two ways to apply one: `anchored` only
matches whole segments, `raw` matches characters.

* `segments` is the view in which an anchored rule is a rule on lists of segments.
* `anchored_self` and `anchored_append` say what an anchored rule does where it matches.
-/

namespace StyleBuild.Path

/-- The segments of a path, empty ones included. -/
def segments (p : Text) : List Text := Text.splitOn separator p

/-- Swaps a prefix that is the whole path or is followed by a separator. -/
def anchored (path pre replacement : Text) : Text :=
  if path = pre then replacement
  else match Text.after? (pre ++ [separator]) path with
    | some rest => replacement ++ separator :: rest
    | none => path

/-- Swaps a prefix wherever the text begins with it. -/
def raw (value pre replacement : Text) : Text :=
  match Text.after? pre value with
  | some rest => replacement ++ rest
  | none => value

theorem anchored_self (pre replacement : Text) : anchored pre pre replacement = replacement := by
  simp [anchored]

theorem anchored_append (pre replacement rest : Text) :
    anchored (pre ++ separator :: rest) pre replacement = replacement ++ separator :: rest := by
  have h : Text.after? (pre ++ [separator]) (pre ++ separator :: rest) = some rest :=
    Text.after?_eq_some_iff.2 (by simp)
  simp [anchored, h]

end StyleBuild.Path
