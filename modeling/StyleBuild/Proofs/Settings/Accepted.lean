import Mathlib.Tactic.Lemma
import StyleBuild.Settings.Reader
import StyleBuild.Proofs.Path.Directory

/-!
# Settings that were accepted

Most properties of a build hold for all settings that the reader gives out and not for every value
of the type `Settings`: the reader trims what names a directory.  `Settings.Accepted` is the set of
these settings, and this file collects what can be relied on.

`readFields_eq_ok_iff` takes the reader apart: settings are read successfully exactly when every
field is, each on its own.  What an accepted field looks like then only depends on the reader of
that field.
-/

namespace StyleBuild

namespace Reading

variable {α β : Type}

lemma map_eq_ok_iff {f : α → β} {x : Reading α} {b : β} :
    f <$> x = .ok b ↔ ∃ a, x = .ok a ∧ f a = b := by
  change map f x = .ok b ↔ _
  cases x <;> simp [map]

/-- Two parts are read together exactly when each one is. -/
lemma seq_eq_ok_iff {x : Reading (α → β)} {y : Reading α} {b : β} :
    x <*> y = .ok b ↔ ∃ f a, x = .ok f ∧ y = .ok a ∧ f a = b := by
  change both x y = .ok b ↔ _
  cases x <;> cases y <;> simp [both, map]

end Reading

namespace Settings

/-- Settings that some raw settings are read as. -/
def Accepted (s : Settings) : Prop := ∃ raw, Settings.ofValue raw = .ok s

/-- A field that is read successfully is not there, or its reader accepts what is there. -/
lemma field_eq_ok {α : Type} {entries : List (Scalar × Value)} {names : List Text} {absent a : α}
    {read : List Text → Value → Reading α} (h : field entries names absent read = .ok a) :
    a = absent ∨ ∃ place v, read place v = .ok a := by
  unfold field at h
  split at h
  · next name v _ => exact Or.inr ⟨[name], v, h⟩
  · exact Or.inl (Reading.ok.inj h).symm

/-- **Settings are read field by field.** -/
theorem readFields_eq_ok_iff {entries : List (Scalar × Value)} {s : Settings} :
    readFields entries = .ok s ↔
      field entries ["moduleBase".toList, "module_base".toList] default.moduleBase readDirectory
          = .ok s.moduleBase ∧
      field entries ["alias".toList] default.aliases (readTable "alias".toList) = .ok s.aliases ∧
      field entries ["replace".toList] default.replace (readTable "replace".toList)
          = .ok s.replace ∧
      field entries ["resolveRelativePaths".toList, "resolve_relative_paths".toList]
          default.resolveRelative readFlag = .ok s.resolveRelative ∧
      field entries ["targets".toList] default.targets readTargets = .ok s.targets ∧
      field entries ["rename".toList] default.rename readRename = .ok s.rename ∧
      field entries ["match".toList, "candidate_pattern".toList] default.candidates readPattern
          = .ok s.candidates ∧
      field entries ["outputStyle".toList, "output_style".toList] default.outputStyle readStyle
          = .ok s.outputStyle ∧
      field entries ["workers".toList] default.workers readWorkers = .ok s.workers := by
  unfold readFields
  simp only [Reading.seq_eq_ok_iff, Reading.map_eq_ok_iff]
  constructor
  · rintro ⟨_, _, ⟨_, _, ⟨_, _, ⟨_, _, ⟨_, _, ⟨_, _, ⟨_, _, ⟨_, _, ⟨_, h₁, rfl⟩, h₂, rfl⟩, h₃, rfl⟩,
      h₄, rfl⟩, h₅, rfl⟩, h₆, rfl⟩, h₇, rfl⟩, h₈, rfl⟩, h₉, rfl⟩
    exact ⟨h₁, h₂, h₃, h₄, h₅, h₆, h₇, h₈, h₉⟩
  · rintro ⟨h₁, h₂, h₃, h₄, h₅, h₆, h₇, h₈, h₉⟩
    exact ⟨_, _, ⟨_, _, ⟨_, _, ⟨_, _, ⟨_, _, ⟨_, _, ⟨_, _, ⟨_, _, ⟨_, h₁, rfl⟩, h₂, rfl⟩, h₃, rfl⟩,
      h₄, rfl⟩, h₅, rfl⟩, h₆, rfl⟩, h₇, rfl⟩, h₈, rfl⟩, h₉, rfl⟩

/-- Accepted settings are the default ones, or were read from the entries of a mapping. -/
lemma Accepted.eq_default_or_readFields {s : Settings} (h : s.Accepted) :
    s = default ∨ ∃ entries, readFields entries = .ok s := by
  obtain ⟨raw, h⟩ := h
  unfold ofValue at h
  split at h
  · exact Or.inl (Except.ok.inj h).symm
  · next entries =>
    split at h
    · next t ht =>
      obtain rfl := Except.ok.inj h
      exact Or.inr ⟨entries, ht⟩
    · cases h
    · cases h
  · cases h

/-! ## Directories -/

lemma getLast?_of_readDirectory {place : List Text} {v : Value} {t : Text}
    (h : readDirectory place v = .ok t) : t.getLast? ≠ some Path.separator := by
  obtain ⟨p, -, rfl⟩ := Reading.map_eq_ok_iff.1 h
  exact Path.getLast?_stripBack _

/-- **The module base does not end with a separator.** -/
theorem Accepted.getLast?_moduleBase {s : Settings} (h : s.Accepted) :
    s.moduleBase.getLast? ≠ some Path.separator := by
  rcases h.eq_default_or_readFields with rfl | ⟨entries, hread⟩
  · simp [default]
  · rcases field_eq_ok (readFields_eq_ok_iff.1 hread).1 with heq | ⟨place, v, hv⟩
    · rw [heq]
      simp [default]
    · exact getLast?_of_readDirectory hv

end Settings

end StyleBuild
