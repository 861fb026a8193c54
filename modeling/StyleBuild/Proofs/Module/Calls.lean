import StyleBuild.Proofs.Module.Spelling

/-!
# How many calls an import takes

An import is resolved by calls that follow each other: a call takes one marker off and hands what is
left to the next one, and the call that finds no marker answers.  `Settings.Resolves` says so with
the calls counted, and does not say that they come to an end.

What a call hands on is not always shorter than what it was given.  The rest of `../x` is handed on
behind a new `./`, and the rest of the last `./` behind a whole directory, which may be of any
length.  But a path that begins with a separator has no marker, with its extension or without, and
everything else that is handed on is shorter.  `Specifier.weight` combines the two, so the number of
calls is bounded by what the first one was given (`exists_resolves_le_weight`).  A run of `~` takes
as many calls as that allows (`resolves_replicate_rootMarker`).
-/

namespace StyleBuild.Settings

/-- A specifier that is seen from a directory is resolved to a key in a number of calls. -/
inductive Resolves (s : Settings) : ℕ → Text → Text → Text → Prop
  /-- There is no marker in front, and both tables are applied. -/
  | settled {specifier directory path : Text}
      (h : Specifier.step s.resolveRelative specifier directory = .settled path) :
      Resolves s 1 specifier directory (Path.stripFront (s.substitute (Path.stripFront path)))
  /-- A marker is taken off, and the next call answers. -/
  | onward {n : ℕ} {specifier directory rest next key : Text}
      (h : Specifier.step s.resolveRelative specifier directory = .onward rest next)
      (hrest : Resolves s n rest next key) : Resolves s (n + 1) specifier directory key

variable {s : Settings} {specifier directory key : Text} {m n : ℕ}

/-- Each call leaves one way to go on. -/
lemma Resolves.unique {key' : Text} (h : s.Resolves n specifier directory key)
    (h' : s.Resolves m specifier directory key') : m = n ∧ key' = key := by
  induction h generalizing m with
  | settled hstep =>
    cases h' with
    | settled hstep' =>
      obtain rfl := Specifier.Step.settled.inj (hstep.symm.trans hstep')
      exact ⟨rfl, rfl⟩
    | onward hstep' => cases hstep.symm.trans hstep'
  | onward hstep _ ih =>
    cases h' with
    | settled hstep' => cases hstep.symm.trans hstep'
    | onward hstep' hrest' =>
      obtain ⟨rfl, rfl⟩ := Specifier.Step.onward.inj (hstep.symm.trans hstep')
      obtain ⟨rfl, rfl⟩ := ih hrest'
      exact ⟨rfl, rfl⟩

/-- The key is the same from the next call on. -/
lemma resolveImport_of_onward {rest next : Text}
    (h : Specifier.step s.resolveRelative specifier directory = .onward rest next) :
    s.resolveImport specifier directory = s.resolveImport rest next := by
  rw [resolveImport, Specifier.settle_of_onward h, resolveImport]

/-- **The calls come to an end**, within the weight of the specifier and one call more.  The
induction is on that weight, which is less in each call. -/
theorem exists_resolves_le_weight (s : Settings) (specifier directory : Text) :
    ∃ n ≤ Specifier.weight specifier + 1,
      s.Resolves n specifier directory (s.resolveImport specifier directory) := by
  induction hweight : Specifier.weight specifier using Nat.strong_induction_on
    generalizing specifier directory with
  | _ weight ih =>
    cases hstep : Specifier.step s.resolveRelative specifier directory with
    | settled path =>
      refine ⟨1, Nat.succ_le_succ (Nat.zero_le weight), ?_⟩
      rw [resolveImport, Specifier.settle_of_settled hstep]
      exact .settled hstep
    | onward rest next =>
      have hless : Specifier.weight rest < weight := by
        rw [← hweight]
        exact Specifier.weight_lt_of_step hstep
      obtain ⟨n, hn, hrest⟩ := ih _ hless rest next rfl
      refine ⟨n + 1, by omega, ?_⟩
      rw [resolveImport_of_onward hstep]
      exact .onward hstep hrest

/-- **Every import is resolved**, in a number of calls that its specifier and the directory decide
and that is at most one more than the length of the specifier. -/
theorem resolves_within_length (s : Settings) (specifier directory : Text) :
    ∃ n ≤ specifier.length + 1, ∀ m key,
      s.Resolves m specifier directory key ↔ m = n ∧ key = s.resolveImport specifier directory := by
  obtain ⟨n, hn, hresolves⟩ := exists_resolves_le_weight s specifier directory
  refine ⟨n, hn.trans (Nat.succ_le_succ (Specifier.weight_le_length specifier)), fun m key => ?_⟩
  constructor
  · exact hresolves.unique
  · rintro ⟨rfl, rfl⟩
    exact hresolves

/-- **No bound is lower:** a run of `~` is taken off one by one. -/
theorem resolves_replicate_rootMarker (s : Settings) (n : ℕ) (directory : Text) :
    ∃ key, s.Resolves (n + 1) (List.replicate n Specifier.rootMarker) directory key := by
  induction n generalizing directory with
  | zero => exact ⟨_, .settled rfl⟩
  | succ n ih =>
    obtain ⟨key, hrest⟩ := ih []
    refine ⟨key, .onward ?_ hrest⟩
    have hplain : ¬ Path.HasExtension (List.replicate (n + 1) Specifier.rootMarker) := by
      rintro ⟨b, e, heq, -⟩
      have hdot : '.' ∈ List.replicate (n + 1) Specifier.rootMarker := by
        rw [heq]
        exact List.mem_append_right b List.mem_cons_self
      exact absurd (List.eq_of_mem_replicate hdot) (by decide)
    rw [Specifier.step, Path.withoutExtension_of_not_hasExtension hplain, List.replicate_succ]
    exact if_pos rfl

end StyleBuild.Settings
