import StyleBuild.Module.Key

/-!
# Import specifiers

What a stylesheet writes after `import` is a specifier.  It is read step by step: each step takes
the extension off and then one marker, and may change the directory that the specifier is relative
to.

* `~` goes to the module root.
* `../` steps up one directory, and leaves a `./`.
* `./` stays.  After the last marker the rest is joined to the directory.

A specifier that begins with a separator is settled, whatever follows, and joining to a directory
makes such a one; every other step makes the specifier shorter.  So `weight`, the length of a
specifier that is not yet settled, decreases (`weight_lt_of_step`), and the steps come to an end.

The settled path becomes a key by the two substitution tables, in `Settings.resolveImport`.
-/

namespace StyleBuild

namespace Specifier

/-- Goes to the module root. -/
def rootMarker : Char := '~'

/-- Stays in the directory. -/
def hereMarker : Text := ['.', '/']

/-- Steps up. -/
def upMarker : Text := ['.', '.', '/']

/-- A specifier after one step of reading. -/
inductive Step
  | settled (path : Text)
  | onward (specifier directory : Text)
  deriving DecidableEq, Repr

/-- The directory above; separators at the end of a directory do not count. -/
def parent (directory : Text) : Text := Path.directory (Path.stripBack directory)

/-- The path of a name in a directory, the root being the empty one. -/
def within (directory path : Text) : Text :=
  if directory = [] then path else Path.join directory path

/-- What follows the markers `./` and `../` is read on its own if it begins with another one. -/
def stepHere (rest directory : Text) : Step :=
  if Text.beginsWith hereMarker rest || Text.beginsWith upMarker rest then .onward rest directory
  else .onward (Path.separator :: within directory rest) directory

/-- A relative specifier loses one marker; any other specifier is settled. -/
def stepRelative (path directory : Text) : Step :=
  match Text.after? upMarker path with
  | some rest => .onward (hereMarker ++ rest) (parent directory)
  | none =>
    match Text.after? hereMarker path with
    | some rest => stepHere rest directory
    | none => .settled path

/-- One step of reading a specifier.  The markers of a relative specifier have no meaning unless
`relative` holds. -/
def step (relative : Bool) (specifier directory : Text) : Step :=
  match Path.withoutExtension specifier with
  | [] => .settled []
  | c :: rest =>
    if c = rootMarker then .onward rest []
    else if relative then stepRelative (c :: rest) directory
    else .settled (c :: rest)

/-- How far a specifier is from being settled. -/
def weight (specifier : Text) : Nat :=
  if specifier.head? = some Path.separator then 0 else specifier.length

/-! ## Reading comes to an end -/

theorem cutLastDot?_length {t before after : Text}
    (h : Path.cutLastDot? t = some (before, after)) :
    before.length + 1 + after.length = t.length := by
  induction t generalizing before after with
  | nil => simp [Path.cutLastDot?] at h
  | cons c r ih =>
    unfold Path.cutLastDot? at h
    split at h
    · next b a hr =>
      simp only [Option.some.injEq, Prod.mk.injEq] at h
      obtain ⟨rfl, rfl⟩ := h
      have := ih hr
      simp only [List.length_cons]
      omega
    · split at h
      · simp only [Option.some.injEq, Prod.mk.injEq] at h
        obtain ⟨rfl, rfl⟩ := h
        simp only [List.length_nil, List.length_cons]
        omega
      · simp at h

/-- An extension is only ever taken away. -/
theorem length_withoutExtension_le (t : Text) : (Path.withoutExtension t).length ≤ t.length := by
  unfold Path.withoutExtension
  split
  · next before after h =>
    split
    · exact Nat.le_refl _
    · have hcut := congrArg List.length (Path.cut_append t)
      have hdot := cutLastDot?_length h
      simp only [Path.name] at hdot
      simp only [List.length_append] at hcut ⊢
      omega
  · exact Nat.le_refl _

/-- A path without extension begins as the path does, unless nothing is left. -/
theorem head?_withoutExtension {t : Text} (h : t.head? = some Path.separator) :
    (Path.withoutExtension t).head? = some Path.separator := by
  obtain ⟨r, rfl⟩ : ∃ r, t = Path.separator :: r := by
    cases t with
    | nil => simp at h
    | cons c r => exact ⟨r, by simpa using h⟩
  unfold Path.withoutExtension
  split
  · split
    · rfl
    · simp [Path.cut]
  · rfl

theorem weight_le_length (t : Text) : weight t ≤ t.length := by
  unfold weight
  split <;> omega

theorem weight_of_head?_ne {t : Text} (h : t.head? ≠ some Path.separator) :
    weight t = t.length := if_neg h

theorem stepHere_onward {rest directory specifier next : Text}
    (h : stepHere rest directory = .onward specifier next) : weight specifier ≤ rest.length := by
  unfold stepHere at h
  split at h
  · simp only [Step.onward.injEq] at h
    obtain ⟨rfl, -⟩ := h
    exact weight_le_length _
  · simp only [Step.onward.injEq] at h
    obtain ⟨rfl, -⟩ := h
    simp [weight]

/-- Every step that goes on makes the weight smaller. -/
theorem weight_lt_of_step {relative : Bool} {specifier directory rest next : Text}
    (h : step relative specifier directory = .onward rest next) :
    weight rest < weight specifier := by
  have hlength := length_withoutExtension_le specifier
  have hhead := head?_withoutExtension (t := specifier)
  unfold step at h
  split at h
  · simp at h
  · next c tail htail =>
    rw [htail] at hlength hhead
    simp only [List.length_cons] at hlength
    split at h
    · next hc =>
      simp only [Step.onward.injEq] at h
      obtain ⟨rfl, -⟩ := h
      have hnot : specifier.head? ≠ some Path.separator := fun hs => by
        have := hhead hs
        simp [hc, rootMarker, Path.separator] at this
      have := weight_le_length tail
      rw [weight_of_head?_ne hnot]
      omega
    · split at h
      · unfold stepRelative at h
        have hnot : c = '.' → specifier.head? ≠ some Path.separator := fun hc hs => by
          have := hhead hs
          simp [hc, Path.separator] at this
        split at h
        · next tail' hup =>
          obtain heq := Text.after?_eq_some_iff.1 hup
          simp only [Step.onward.injEq] at h
          obtain ⟨rfl, -⟩ := h
          simp only [upMarker, List.cons_append, List.nil_append, List.cons.injEq] at heq
          obtain ⟨hc, rfl⟩ := heq
          have hle := weight_le_length (hereMarker ++ tail')
          simp only [List.length_cons, List.length_append, hereMarker, List.length_nil]
            at hlength hle
          rw [weight_of_head?_ne (hnot hc)]
          exact Nat.lt_of_le_of_lt hle (by omega)
        · split at h
          · next tail' hhere =>
            obtain heq := Text.after?_eq_some_iff.1 hhere
            simp only [hereMarker, List.cons_append, List.nil_append, List.cons.injEq] at heq
            obtain ⟨hc, rfl⟩ := heq
            have hle := stepHere_onward h
            simp only [List.length_cons] at hlength
            rw [weight_of_head?_ne (hnot hc)]
            omega
          · simp at h
      · simp at h

/-- The path that a specifier settles to. -/
def settle (relative : Bool) (specifier directory : Text) : Text :=
  match _h : step relative specifier directory with
  | .settled path => path
  | .onward rest next => settle relative rest next
termination_by weight specifier
decreasing_by exact weight_lt_of_step _h

end Specifier

namespace Settings

/-- Applies the substitution tables to a path, entry after entry. -/
def substitute (s : Settings) (path : Text) : Text :=
  let path := s.aliases.entries.foldl (fun p e => Path.anchored p e.1 e.2) path
  s.replace.entries.foldl (fun p e => Path.raw p e.1 e.2) path

/-- The key of the module that a specifier names in a directory. -/
def resolveImport (s : Settings) (specifier directory : Text) : Text :=
  Path.stripFront (s.substitute (Path.stripFront
    (Specifier.settle s.resolveRelative specifier directory)))

end Settings

end StyleBuild
