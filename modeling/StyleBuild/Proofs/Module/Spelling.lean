import StyleBuild.Module.Specifier
import StyleBuild.Proofs.Module.Registry
import StyleBuild.Proofs.Path.Segments

/-!
# Spellings of a file name

A stylesheet can name the file of a module in three ways: as `./name` from the directory of the
file, from the module root as `~path`, and as `/path`.  Without substitution tables all three should
come out as the key of the module.

They do not quite.  A specifier is read in steps, and every step takes an extension off, so the two
spellings with a marker take off two (`resolveImport_here`, `resolveImport_root`) where the key has
lost one.  `/path` has no marker and always gives the key (`resolveImport_absolute`).  Moreover `~`
in front of a dot-file makes the whole name look like an extension, and nothing is left of it.

`spellingsAgree_iff` says exactly when the spellings agree, and
`not_forall_spellingsAgree` that they do not for `lib/a.b.scss`.
-/

namespace StyleBuild

namespace Specifier

/-! ## Reading specifiers -/

lemma settle_of_settled {relative : Bool} {specifier directory path : Text}
    (h : step relative specifier directory = .settled path) :
    settle relative specifier directory = path := by
  rw [settle]
  split
  · next p hp =>
    rw [h, Step.settled.injEq] at hp
    exact hp.symm
  · next rest next hn =>
    rw [h] at hn
    cases hn

lemma settle_of_onward {relative : Bool} {specifier directory rest next : Text}
    (h : step relative specifier directory = .onward rest next) :
    settle relative specifier directory = settle relative rest next := by
  rw [settle]
  split
  · next p hp =>
    rw [h] at hp
    cases hp
  · next rest' next' hn =>
    rw [h, Step.onward.injEq] at hn
    rw [hn.1, hn.2]

lemma not_beginsWith_of_head?_ne {c : Char} {marker path : Text} (h : path.head? ≠ some c) :
    Text.after? (c :: marker) path = none := by
  cases path with
  | nil => rfl
  | cons a path =>
    have hne : c ≠ a := fun heq => h (by rw [heq]; rfl)
    simp [Text.after?, hne]

/-- A specifier that begins with a separator is settled, whatever follows. -/
lemma settle_separator_cons (relative : Bool) (path directory : Text) :
    settle relative (Path.separator :: path) directory
      = Path.separator :: Path.withoutExtension path := by
  have hroot : Path.separator ≠ rootMarker := by decide
  have hdot : (Path.separator :: Path.withoutExtension path).head? ≠ some '.' := by
    simp [Path.separator_ne_dot]
  refine settle_of_settled ?_
  rw [step, Path.withoutExtension_cons_separator]
  simp only [hroot, if_false, stepRelative, upMarker, hereMarker,
    not_beginsWith_of_head?_ne hdot, ite_self]

/-- Whether a path begins with none of the markers. -/
structure Unmarked (path : Text) : Prop where
  root : path.head? ≠ some rootMarker
  up : Text.after? upMarker path = none
  here : Text.after? hereMarker path = none

/-- A specifier without a marker is settled, too. -/
lemma settle_of_unmarked {relative : Bool} {specifier directory : Text}
    (h : Unmarked (Path.withoutExtension specifier)) :
    settle relative specifier directory = Path.withoutExtension specifier := by
  refine settle_of_settled ?_
  rw [step]
  cases hpath : Path.withoutExtension specifier with
  | nil => rfl
  | cons c rest =>
    rw [hpath] at h
    have hc : c ≠ rootMarker := fun heq => h.root (by rw [heq]; rfl)
    simp only [hc, if_false, stepRelative, h.up, h.here, ite_self]

lemma settle_root_cons {relative : Bool} {path directory rest : Text}
    (h : Path.withoutExtension path = rootMarker :: rest) :
    settle relative path directory = settle relative rest [] := by
  refine settle_of_onward ?_
  rw [step, h]
  simp only [if_true]

/-- A last `./` joins what follows to the directory. -/
lemma settle_here_append {n : Text} (directory : Text) (hn : Path.separator ∉ n) :
    settle true (hereMarker ++ n) directory = Path.separator ::
      Path.withoutExtension (within directory (Path.withoutExtension n)) := by
  have hn' : Path.separator ∉ Path.withoutExtension n := by
    obtain ⟨r, hr⟩ := Path.exists_append_withoutExtension n
    intro hmem
    exact hn (by rw [hr]; exact List.mem_append_left _ hmem)
  have hpath : Path.withoutExtension (hereMarker ++ n) = hereMarker ++ Path.withoutExtension n :=
    Path.withoutExtension_append_separator ['.'] n
  have hmarker : ∀ marker : Text, Path.separator ∈ marker →
      Text.beginsWith marker (Path.withoutExtension n) = false := by
    intro marker hmem
    cases hafter : Text.after? marker (Path.withoutExtension n) with
    | none => rw [Text.beginsWith, hafter]; rfl
    | some r =>
      rw [Text.after?_eq_some_iff.1 hafter, List.mem_append, not_or] at hn'
      exact absurd hmem hn'.1
  have hstep : step true (hereMarker ++ n) directory
      = stepHere (Path.withoutExtension n) directory := by
    rw [step, hpath]
    rfl
  have hhere : stepHere (Path.withoutExtension n) directory
      = .onward (Path.separator :: within directory (Path.withoutExtension n)) directory := by
    rw [stepHere, hmarker hereMarker (by decide), hmarker upMarker (by decide)]
    rfl
  rw [settle_of_onward (hstep.trans hhere), settle_separator_cons]

end Specifier

/-! ## Ordinary paths -/

/-- A path that no part of a specifier is mistaken in: its segments are names, and it does not begin
with the marker of the root. -/
structure Path.Ordinary (p : Text) : Prop where
  nonempty : p ≠ []
  unmarked : p.head? ≠ some Specifier.rootMarker
  segments : ∀ segment ∈ Path.segments p, segment ≠ [] ∧ segment ≠ ['.'] ∧ segment ≠ ['.', '.']

namespace Path

variable {p : Text}

instance : Decidable (Ordinary p) :=
  decidable_of_iff (p ≠ [] ∧ p.head? ≠ some Specifier.rootMarker ∧
      ∀ segment ∈ segments p, segment ≠ [] ∧ segment ≠ ['.'] ∧ segment ≠ ['.', '.'])
    ⟨fun h => ⟨h.1, h.2.1, h.2.2⟩, fun h => ⟨h.nonempty, h.unmarked, h.segments⟩⟩

lemma Ordinary.nil_notMem (h : Ordinary p) : [] ∉ Path.segments p :=
  fun hmem => (h.segments [] hmem).1 rfl

/-- A path does not begin with a segment that it does not have. -/
lemma after?_eq_none_of_notMem_segments {segment front r : Text} (hsegment : separator ∉ segment)
    (h : segment ∉ segments (front ++ r)) : Text.after? (segment ++ [separator]) front = none := by
  refine Text.after?_eq_none_iff.2 ?_
  rintro ⟨rest, rfl⟩
  rw [List.append_assoc, List.append_assoc] at h
  exact h (mem_segments_append hsegment (rest ++ r))

/-- What an ordinary path begins with has no marker in front. -/
lemma Ordinary.unmarked_of_append {front : Text} (h : Ordinary p) (hfront : ∃ r, p = front ++ r) :
    Specifier.Unmarked front := by
  obtain ⟨r, rfl⟩ := hfront
  refine ⟨fun hhead => h.unmarked ?_, ?_, ?_⟩
  · cases front with
    | nil => cases hhead
    | cons c front => exact hhead
  · exact after?_eq_none_of_notMem_segments (by decide)
      fun hmem => (h.segments ['.', '.'] hmem).2.2 rfl
  · exact after?_eq_none_of_notMem_segments (by decide)
      fun hmem => (h.segments ['.'] hmem).2.1 rfl

/-- Put into its directory, the name without extension is the path without extension. -/
lemma within_directory_name (h : Ordinary p) (hhead : p.head? ≠ some separator) :
    Specifier.within (directory p) (withoutExtension (name p)) = withoutExtension p := by
  rcases eq_directory_append_name hhead h.nil_notMem with ⟨hdir, hname⟩ | ⟨hdir, hname⟩
  · rw [Specifier.within, if_pos hdir, ← hname]
  · have hnot : (withoutExtension (name p)).head? ≠ some separator := by
      obtain ⟨r, hr⟩ := exists_append_withoutExtension (name p)
      have hmem := separator_not_mem_name p
      rw [hr, List.mem_append, not_or] at hmem
      exact fun hsep => hmem.1 (List.mem_of_head? hsep)
    have hjoin : Specifier.within (directory p) (withoutExtension (name p))
        = directory p ++ separator :: withoutExtension (name p) := by
      rw [Specifier.within, if_neg hdir, join, if_neg (by simp [hnot, hdir]),
        if_neg (getLast?_directory hhead)]
    rw [hjoin, ← withoutExtension_append_separator, ← hname]

end Path

/-! ## The three spellings -/

namespace Settings

variable {s : Settings} {p : Text}

/-- Without substitution tables an import is what its specifier settles to. -/
lemma resolveImport_of_no_tables (aliases : s.aliases = .empty) (replace : s.replace = .empty)
    (specifier directory : Text) :
    s.resolveImport specifier directory =
      Path.stripFront (Specifier.settle s.resolveRelative specifier directory) := by
  rw [resolveImport, substitute, aliases, replace]
  exact Path.stripFront_stripFront _

lemma head?_withoutExtension_moduleKey (s : Settings) (p : Text) :
    (Path.withoutExtension (s.moduleKey p)).head? ≠ some Path.separator := by
  have hhead := s.head?_moduleKey p
  obtain ⟨r, hr⟩ := Path.exists_append_withoutExtension (s.moduleKey p)
  intro h
  rw [hr] at hhead
  cases hkey : Path.withoutExtension (s.moduleKey p) with
  | nil => rw [hkey] at h; cases h
  | cons c k => rw [hkey] at hhead h; exact hhead h

/-- **`/path` always gives the key.** -/
theorem resolveImport_absolute (aliases : s.aliases = .empty) (replace : s.replace = .empty)
    (directory : Text) :
    s.resolveImport (Path.separator :: s.modulePath p) directory = s.moduleKey p := by
  rw [resolveImport_of_no_tables aliases replace, Specifier.settle_separator_cons,
    Path.stripFront_cons_separator]
  exact Path.stripFront_of_head?_ne (s.head?_moduleKey p)

/-- **`./name` takes a second extension off.** -/
theorem resolveImport_here (aliases : s.aliases = .empty) (replace : s.replace = .empty)
    (relative : s.resolveRelative = true) (ordinary : Path.Ordinary (s.modulePath p)) :
    s.resolveImport (Specifier.hereMarker ++ Path.name (s.modulePath p))
        (Path.directory (s.modulePath p)) = Path.withoutExtension (s.moduleKey p) := by
  rw [resolveImport_of_no_tables aliases replace, relative,
    Specifier.settle_here_append _ (Path.separator_not_mem_name _),
    Path.within_directory_name ordinary (s.head?_modulePath p), Path.stripFront_cons_separator]
  exact Path.stripFront_of_head?_ne (s.head?_withoutExtension_moduleKey p)

/-- **`~path` takes a second extension off**, and loses a dot-file at the root altogether. -/
theorem resolveImport_root (aliases : s.aliases = .empty) (replace : s.replace = .empty)
    (ordinary : Path.Ordinary (s.modulePath p)) (directory : Text) :
    (Path.IsDotFile (s.modulePath p) →
      s.resolveImport (Specifier.rootMarker :: s.modulePath p) directory = []) ∧
    (¬ Path.IsDotFile (s.modulePath p) →
      s.resolveImport (Specifier.rootMarker :: s.modulePath p) directory
        = Path.withoutExtension (s.moduleKey p)) := by
  have hmarker : Specifier.rootMarker ≠ Path.separator := by decide
  rw [resolveImport_of_no_tables aliases replace]
  constructor
  · intro hdot
    rw [Specifier.settle_root_cons (Path.withoutExtension_cons_of_isDotFile hmarker hdot),
      Specifier.settle_of_unmarked ⟨by simp [Path.withoutExtension_eq_nil_iff.2],
        by simp [Path.withoutExtension_eq_nil_iff.2, Specifier.upMarker, Text.after?],
        by simp [Path.withoutExtension_eq_nil_iff.2, Specifier.hereMarker, Text.after?]⟩]
    rfl
  · intro hdot
    have hfront : ∃ r, s.modulePath p = Path.withoutExtension (s.moduleKey p) ++ r := by
      obtain ⟨r, hr⟩ := Path.exists_append_withoutExtension (s.modulePath p)
      obtain ⟨r', hr'⟩ := Path.exists_append_withoutExtension (s.moduleKey p)
      refine ⟨r' ++ r, ?_⟩
      rw [← List.append_assoc, ← hr', moduleKey, ← hr]
    rw [Specifier.settle_root_cons (Path.withoutExtension_cons hdot), ← moduleKey,
      Specifier.settle_of_unmarked (ordinary.unmarked_of_append hfront)]
    exact Path.stripFront_of_head?_ne (s.head?_withoutExtension_moduleKey p)

/-- Every spelling of the file name of a module means the module. -/
def SpellingsAgree (s : Settings) (p : Text) : Prop :=
  ∀ directory,
    s.resolveImport (Specifier.hereMarker ++ Path.name (s.modulePath p))
        (Path.directory (s.modulePath p)) = s.moduleKey p ∧
    s.resolveImport (Specifier.rootMarker :: s.modulePath p) directory = s.moduleKey p ∧
    s.resolveImport (Path.separator :: s.modulePath p) directory = s.moduleKey p

/-- **The spellings agree exactly when the key has no extension left and the file is no dot-file at
the root.** -/
theorem spellingsAgree_iff (aliases : s.aliases = .empty) (replace : s.replace = .empty)
    (relative : s.resolveRelative = true) (ordinary : Path.Ordinary (s.modulePath p)) :
    s.SpellingsAgree p ↔
      ¬ Path.HasExtension (s.moduleKey p) ∧ ¬ Path.IsDotFile (s.modulePath p) := by
  have hhere := resolveImport_here aliases replace relative ordinary
  have hroot := resolveImport_root aliases replace ordinary
  constructor
  · intro agree
    refine ⟨?_, fun hdot => ?_⟩
    · rw [← Path.withoutExtension_eq_self_iff, ← hhere]
      exact (agree []).1
    · have hkey := (agree []).2.1
      rw [(hroot []).1 hdot] at hkey
      exact ordinary.nonempty (Path.withoutExtension_eq_nil_iff.1 hkey.symm)
  · rintro ⟨hext, hdot⟩ directory
    have hkey := Path.withoutExtension_eq_self_iff.2 hext
    exact ⟨hhere.trans hkey, ((hroot directory).2 hdot).trans hkey,
      resolveImport_absolute aliases replace directory⟩

/-- A dot-file below a directory whose name has a dot. -/
theorem spellingsAgree_dark :
    let s : Settings := { default with moduleBase := "src".toList }
    let p : Text := "/src/v1.2/.dark.scss".toList
    Path.Ordinary (s.modulePath p) ∧ s.SpellingsAgree p := by
  intro s p
  have ordinary : Path.Ordinary (s.modulePath p) := by decide
  have agree : s.SpellingsAgree p :=
    (spellingsAgree_iff rfl rfl rfl ordinary).2 ⟨by decide, by decide⟩
  exact ⟨ordinary, agree⟩

/-- **The spellings do not agree in general.**  In the directory of `lib/a.b.scss`, `./a.b.scss`
means `lib/a`, but the key is `lib/a.b`. -/
theorem not_forall_spellingsAgree :
    ¬ ∀ (s : Settings) (p : Text), s.aliases = .empty → s.replace = .empty →
      s.resolveRelative = true → Path.Ordinary (s.modulePath p) → s.SpellingsAgree p := by
  intro h
  have agree := h default "lib/a.b.scss".toList rfl rfl rfl (by decide)
  have hhere := (agree []).1
  have hne : default.resolveImport (Specifier.hereMarker ++
      Path.name (default.modulePath "lib/a.b.scss".toList))
      (Path.directory (default.modulePath "lib/a.b.scss".toList))
        ≠ default.moduleKey "lib/a.b.scss".toList := by decide +kernel
  exact hne hhere

end Settings

end StyleBuild
