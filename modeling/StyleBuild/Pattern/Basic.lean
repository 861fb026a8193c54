import StyleBuild.Pattern.Match
import StyleBuild.Pattern.Reader

/-!
# Patterns

A pattern keeps its written form beside the form that was read from it, and that the one was read
from the other.  So the written form determines the pattern (`ext_source`), and a pattern can be
written down and read again without loss (`ofText_self`).
-/

namespace StyleBuild

/-- A pattern that texts are searched with. -/
structure Pattern where
  source : Text
  form : Pattern.Form
  ofText_source : Pattern.Form.ofText source = .ok form

namespace Pattern

/-- Reads the written form of a pattern. -/
def ofText (source : Text) : Except Refusal Pattern :=
  match h : Form.ofText source with
  | .ok form => .ok ⟨source, form, h⟩
  | .error e => .error e

/-- Whether the pattern matches somewhere in a text. -/
def search (p : Pattern) (t : Text) : Bool := (p.form.search? t).isSome

/-- Whether the first match in a text has a group that ends before it begins.  There is no answer
then. -/
def tears (p : Pattern) (t : Text) : Bool := (p.form.search? t).any (·.isTorn)

/-- Patterns with the same written form are the same. -/
theorem ext_source {p q : Pattern} (h : p.source = q.source) : p = q := by
  obtain ⟨s, n, hn⟩ := p
  obtain ⟨s', n', hn'⟩ := q
  obtain rfl : s = s' := h
  obtain rfl : n = n' := Except.ok.inj (hn.symm.trans hn')
  rfl

instance : DecidableEq Pattern := fun p q =>
  if h : p.source = q.source then isTrue (ext_source h) else isFalse fun eq => h (eq ▸ rfl)

/-- Writing a pattern down and reading it again gives the same pattern. -/
theorem ofText_self (p : Pattern) : ofText p.source = .ok p := by
  unfold ofText
  split
  · next form h => exact congrArg _ (ext_source rfl)
  · next e h => exact absurd (h.symm.trans p.ofText_source) (by simp)

end Pattern

end StyleBuild
