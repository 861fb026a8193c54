import Mathlib.Data.List.DropRight
import StyleBuild.Path.Swap
import StyleBuild.Proofs.Path.Extension

/-!
# Directories and the separators around them

`Path.directory` cuts the last segment off and then trims separators; `Path.stripFront` and
`Path.anchored` work at the other end of a path.  The two ends do not disturb each other, and this
file says so.

* `directory_withoutExtension`: an extension is part of the last segment.
* `stripFront_directory_cons_separator`: a separator put in front of a path is found again in front
  of its directory.
* `directory_anchored`: a base directory can be cut off before or after the last segment is, as long
  as something of the path is left below the base.
* `below_withoutExtension`: what a path is below does not depend on its extension.
-/

namespace StyleBuild.Path

/-! ## Separators in front -/

lemma head?_stripFront (p : Text) : (stripFront p).head? ≠ some separator := by
  intro h
  have hnot := List.head?_dropWhile_not (· = separator) p
  rw [stripFront] at h
  rw [h] at hnot
  simp at hnot

lemma stripFront_of_head?_ne {p : Text} (h : p.head? ≠ some separator) : stripFront p = p := by
  cases p with
  | nil => rfl
  | cons c r =>
    have hc : c ≠ separator := fun hc => h (by rw [hc]; rfl)
    simp [stripFront, hc]

lemma stripFront_eq_self_iff {p : Text} : stripFront p = p ↔ p.head? ≠ some separator := by
  refine ⟨fun h => ?_, stripFront_of_head?_ne⟩
  rw [← h]
  exact head?_stripFront p

lemma stripFront_stripFront (p : Text) : stripFront (stripFront p) = stripFront p :=
  stripFront_of_head?_ne (head?_stripFront p)

@[simp] lemma stripFront_cons_separator (p : Text) :
    stripFront (separator :: p) = stripFront p := by
  simp [stripFront]

lemma stripFront_replicate_append (k : ℕ) (p : Text) :
    stripFront (List.replicate k separator ++ p) = stripFront p := by
  induction k with
  | zero => rfl
  | succ k ih => rw [List.replicate_succ, List.cons_append, stripFront_cons_separator, ih]

/-- A path is some separators and what is left without them. -/
lemma exists_replicate_append_stripFront (p : Text) :
    ∃ k, p = List.replicate k separator ++ stripFront p := by
  induction p with
  | nil => exact ⟨0, rfl⟩
  | cons c r ih =>
    by_cases hc : c = separator
    · obtain ⟨k, hk⟩ := ih
      refine ⟨k + 1, ?_⟩
      rw [hc, stripFront_cons_separator, List.replicate_succ, List.cons_append, ← hk]
    · exact ⟨0, (stripFront_of_head?_ne (by simpa using hc)).symm⟩

/-- The separators in front do not count for the extension. -/
lemma withoutExtension_replicate_append (k : ℕ) (p : Text) :
    withoutExtension (List.replicate k separator ++ p) =
      List.replicate k separator ++ withoutExtension p := by
  induction k with
  | zero => rfl
  | succ k ih =>
    rw [List.replicate_succ, List.cons_append, withoutExtension_cons_separator, ih]
    rfl

lemma withoutExtension_stripFront (p : Text) :
    withoutExtension (stripFront p) = stripFront (withoutExtension p) := by
  obtain ⟨k, hk⟩ := exists_replicate_append_stripFront p
  have hhead : (withoutExtension (stripFront p)).head? ≠ some separator := by
    rw [head?_withoutExtension_eq]
    exact head?_stripFront p
  calc withoutExtension (stripFront p)
      = stripFront (withoutExtension (stripFront p)) := (stripFront_of_head?_ne hhead).symm
    _ = stripFront (withoutExtension (List.replicate k separator ++ stripFront p)) := by
        rw [withoutExtension_replicate_append, stripFront_replicate_append]
    _ = stripFront (withoutExtension p) := by rw [← hk]

/-! ## Separators at the end -/

lemma stripBack_append_separator (p : Text) : stripBack (p ++ [separator]) = stripBack p :=
  List.rdropWhile_concat_pos _ _ _ (by simp)

lemma stripBack_append_replicate (p : Text) (k : ℕ) :
    stripBack (p ++ List.replicate k separator) = stripBack p := by
  induction k with
  | zero => rw [List.replicate_zero, List.append_nil]
  | succ k ih => rw [List.replicate_succ', ← List.append_assoc, stripBack_append_separator, ih]

lemma stripBack_of_getLast?_ne {p : Text} (h : p.getLast? ≠ some separator) : stripBack p = p := by
  refine List.rdropWhile_eq_self_iff.2 fun hp hlast => h ?_
  rw [List.getLast?_eq_some_getLast hp]
  simpa using hlast

lemma getLast?_stripBack (p : Text) : (stripBack p).getLast? ≠ some separator := by
  intro h
  have hne : stripBack p ≠ [] := by
    intro hnil
    rw [hnil] at h
    cases h
  rw [List.getLast?_eq_some_getLast hne, Option.some.injEq] at h
  exact List.rdropWhile_last_not (· = separator) p hne (decide_eq_true h)

/-- A path is what is left without the separators at its end, and these. -/
lemma exists_stripBack_append_replicate (p : Text) :
    ∃ k, p = stripBack p ++ List.replicate k separator := by
  obtain ⟨k, hk⟩ := exists_replicate_append_stripFront p.reverse
  refine ⟨k, ?_⟩
  have := congrArg List.reverse hk
  rw [List.reverse_reverse, List.reverse_append, List.reverse_replicate] at this
  exact this

lemma stripBack_eq_nil_iff {p : Text} : stripBack p = [] ↔ ∀ c ∈ p, c = separator := by
  refine List.rdropWhile_eq_nil_iff.trans ?_
  simp

/-- Trimming only reaches as far as there are separators. -/
lemma stripBack_append {a b : Text} (h : stripBack b ≠ []) : stripBack (a ++ b) = a ++ stripBack b := by
  obtain ⟨k, hk⟩ := exists_stripBack_append_replicate b
  have hlast : (a ++ stripBack b).getLast? ≠ some separator := by
    rw [List.getLast?_append_of_ne_nil _ h]
    exact getLast?_stripBack b
  calc stripBack (a ++ b)
      = stripBack (a ++ stripBack b ++ List.replicate k separator) := by
        rw [List.append_assoc, ← hk]
    _ = stripBack (a ++ stripBack b) := stripBack_append_replicate _ _
    _ = a ++ stripBack b := stripBack_of_getLast?_ne hlast

/-- A path that begins with a segment is not used up by trimming. -/
lemma stripBack_ne_nil {p : Text} (hp : p ≠ []) (h : p.head? ≠ some separator) :
    stripBack p ≠ [] := by
  intro hnil
  cases p with
  | nil => exact hp rfl
  | cons c r =>
    have hc := stripBack_eq_nil_iff.1 hnil c List.mem_cons_self
    exact h (by rw [hc]; rfl)

/-- What stands before a separator of a path begins as the path does. -/
lemma head?_ne_of_append {d n : Text} (h : (d ++ separator :: n).head? ≠ some separator) :
    d ≠ [] ∧ d.head? ≠ some separator := by
  cases d with
  | nil => exact absurd rfl h
  | cons c d => exact ⟨List.cons_ne_nil c d, h⟩

lemma head?_stripBack {p : Text} (h : p.head? ≠ some separator) :
    (stripBack p).head? ≠ some separator := by
  obtain ⟨k, hk⟩ := exists_stripBack_append_replicate p
  intro hhead
  rw [hk] at h
  cases hs : stripBack p with
  | nil => rw [hs] at hhead; cases hhead
  | cons c r => rw [hs] at h hhead; exact h hhead

/-! ## The directory -/

lemma directory_of_not_mem {n : Text} (h : separator ∉ n) : directory n = [] := by
  simp [directory, cut_of_not_mem h]

/-- The directory of a last segment, when it is not just separators. -/
lemma directory_append_separator {d n : Text} (hn : separator ∉ n) (hd : stripBack d ≠ []) :
    directory (d ++ separator :: n) = stripBack d := by
  have hall : (d ++ [separator]).all (· = separator) = false := by
    by_contra hall
    refine hd (stripBack_eq_nil_iff.2 fun c hc => ?_)
    simp only [Bool.not_eq_false, List.all_eq_true] at hall
    simpa using hall c (List.mem_append_left _ hc)
  simp only [directory, cut_append_separator d n hn, hall, Bool.false_eq_true, if_false]
  exact stripBack_append_separator d

lemma directory_separator_cons {n : Text} (hn : separator ∉ n) :
    directory (separator :: n) = [separator] := by
  have hcut : cut (separator :: n) = ([separator], n) := cut_append_separator [] n hn
  simp [directory, hcut]

/-- **An extension is part of the last segment.** -/
theorem directory_withoutExtension (p : Text) : directory (withoutExtension p) = directory p := by
  rcases segment_or_append p with h | ⟨d, n, hn, rfl⟩
  · rw [directory_of_not_mem h, directory_of_not_mem]
    obtain ⟨r, hr⟩ := exists_append_withoutExtension p
    intro hmem
    exact h (by rw [hr]; exact List.mem_append_left _ hmem)
  · have hn' : separator ∉ withoutExtension n := by
      obtain ⟨r, hr⟩ := exists_append_withoutExtension n
      intro hmem
      exact hn (by rw [hr]; exact List.mem_append_left _ hmem)
    rw [withoutExtension_append_separator, directory, directory, cut_append_separator d _ hn',
      cut_append_separator d n hn]

/-- A directory is what its path begins with, up to a separator. -/
lemma directory_eq_nil_or_append {p : Text} (h : p.head? ≠ some separator) :
    directory p = [] ∨ ∃ r, p = directory p ++ separator :: r := by
  rcases segment_or_append p with hp | ⟨d, n, hn, rfl⟩
  · exact Or.inl (directory_of_not_mem hp)
  · obtain ⟨hd, hhead⟩ := head?_ne_of_append h
    obtain ⟨k, hk⟩ := exists_stripBack_append_replicate d
    rw [directory_append_separator hn (stripBack_ne_nil hd hhead)]
    refine Or.inr ⟨List.replicate k separator ++ n, ?_⟩
    have hrep : separator :: (List.replicate k separator ++ n)
        = List.replicate k separator ++ separator :: n := by
      rw [← List.cons_append, ← List.replicate_succ, List.replicate_succ', List.append_assoc]
      rfl
    rw [hrep, ← List.append_assoc, ← hk]

lemma head?_directory {p : Text} (h : p.head? ≠ some separator) :
    (directory p).head? ≠ some separator := by
  rcases directory_eq_nil_or_append h with hnil | ⟨r, hr⟩
  · rw [hnil]
    simp
  · intro hhead
    rw [hr] at h
    cases hd : directory p with
    | nil => rw [hd] at hhead; cases hhead
    | cons c d => rw [hd] at h hhead; exact h hhead

lemma getLast?_directory {p : Text} (h : p.head? ≠ some separator) :
    (directory p).getLast? ≠ some separator := by
  rcases segment_or_append p with hp | ⟨d, n, hn, rfl⟩
  · rw [directory_of_not_mem hp]
    simp
  · obtain ⟨hd, hhead⟩ := head?_ne_of_append h
    rw [directory_append_separator hn (stripBack_ne_nil hd hhead)]
    exact getLast?_stripBack d

/-- **The directory of an absolute path** is the absolute path of the directory. -/
theorem stripFront_directory_cons_separator {p : Text} (h : p.head? ≠ some separator) :
    stripFront (directory (separator :: p)) = directory p := by
  rcases segment_or_append p with hp | ⟨d, n, hn, rfl⟩
  · rw [directory_separator_cons hp, directory_of_not_mem hp]
    rfl
  · obtain ⟨hd, hhead⟩ := head?_ne_of_append h
    have hback := stripBack_ne_nil hd hhead
    have hcons : stripBack (separator :: d) = separator :: stripBack d := stripBack_append
      (a := [separator]) hback
    have hne : stripBack (separator :: d) ≠ [] := by
      rw [hcons]
      exact List.cons_ne_nil _ _
    rw [← List.cons_append, directory_append_separator hn hne, directory_append_separator hn hback,
      hcons, stripFront_cons_separator]
    exact stripFront_of_head?_ne (head?_stripBack hhead)

/-! ## Cutting a base off -/

/-- The directory of something below a base begins with the base, and then goes on as the directory
relative to the base does. -/
lemma directory_append_below {base rest : Text} (hne : base ≠ [])
    (hlast : base.getLast? ≠ some separator) (hrest : stripFront rest ≠ []) :
    (directory (base ++ separator :: rest) = base ∧ directory (stripFront rest) = []) ∨
      ∃ z, directory (base ++ separator :: rest) = base ++ separator :: z ∧
        stripFront z = directory (stripFront rest) := by
  obtain ⟨k, hk⟩ := exists_replicate_append_stripFront rest
  have hhead := head?_stripFront rest
  generalize hm : stripFront rest = m at *
  have hseps : separator :: rest = List.replicate k separator ++ separator :: m := by
    rw [hk, ← List.cons_append, ← List.replicate_succ, List.replicate_succ', List.append_assoc]
    rfl
  rcases segment_or_append m with hmem | ⟨h, n, hn, rfl⟩
  · refine Or.inl ⟨?_, directory_of_not_mem hmem⟩
    have hback : stripBack (base ++ List.replicate k separator) = base := by
      rw [stripBack_append_replicate, stripBack_of_getLast?_ne hlast]
    rw [hseps, ← List.append_assoc, directory_append_separator hmem (by rw [hback]; exact hne),
      hback]
  · obtain ⟨hh, hhhead⟩ := head?_ne_of_append hhead
    have hback := stripBack_ne_nil hh hhhead
    refine Or.inr ⟨List.replicate k separator ++ stripBack h, ?_, ?_⟩
    · have hassoc : base ++ separator :: rest
          = (base ++ separator :: List.replicate k separator ++ h) ++ separator :: n := by
        rw [hk]
        simp
      have hstrip : stripBack (base ++ separator :: List.replicate k separator ++ h)
          = base ++ separator :: (List.replicate k separator ++ stripBack h) := by
        rw [stripBack_append hback]
        simp
      rw [hassoc, directory_append_separator hn (by rw [hstrip]; simp), hstrip]
    · rw [stripFront_replicate_append, stripFront_of_head?_ne (head?_stripBack hhhead),
        directory_append_separator hn hback]

/-- A base is cut off where the path goes on with a separator. -/
lemma anchored_eq_of_not_append {path base replacement : Text} (hne : path ≠ base)
    (happ : ∀ r, path ≠ base ++ separator :: r) : anchored path base replacement = path := by
  rw [anchored, if_neg hne]
  split
  · next rest hafter =>
    rw [Text.after?_eq_some_iff] at hafter
    exact absurd (by simpa using hafter) (happ rest)
  · rfl

/-- **Cutting a base off and taking the directory commute**, as long as something is left below the
base. -/
theorem directory_anchored {base p : Text} (hne : base ≠ [])
    (hlast : base.getLast? ≠ some separator) (hp : p.head? ≠ some separator)
    (hleft : stripFront (anchored p base []) ≠ []) :
    stripFront (anchored (directory p) base []) = directory (stripFront (anchored p base [])) := by
  by_cases hself : p = base
  · rw [hself, anchored_self] at hleft
    exact absurd rfl hleft
  by_cases hbelow : ∃ rest, p = base ++ separator :: rest
  · obtain ⟨rest, rfl⟩ := hbelow
    rw [anchored_append, List.nil_append, stripFront_cons_separator] at hleft ⊢
    rcases directory_append_below hne hlast hleft with ⟨hdir, hnil⟩ | ⟨z, hdir, hz⟩
    · rw [hdir, anchored_self, hnil]
      rfl
    · rw [hdir, anchored_append, List.nil_append, stripFront_cons_separator, hz]
  -- Outside the base nothing happens to the path, and neither to its directory.
  · rw [not_exists] at hbelow
    have houtside : anchored (directory p) base [] = directory p := by
      rcases directory_eq_nil_or_append hp with hnil | ⟨r, hr⟩
      · rw [hnil]
        exact anchored_eq_of_not_append hne.symm (by simp)
      · refine anchored_eq_of_not_append (fun hd => hbelow r ?_) fun z hz => ?_
        · rw [← hd]
          exact hr
        · refine hbelow (z ++ separator :: r) ?_
          rw [hz] at hr
          simpa using hr
    rw [houtside, anchored_eq_of_not_append hself hbelow, stripFront_of_head?_ne hp]
    exact stripFront_of_head?_ne (head?_directory hp)

/-! ## Below a directory -/

/-- A path that begins with a directory and a separator. -/
def Below (directory p : Text) : Prop := ∃ rest, p = directory ++ separator :: rest

lemma below_iff_isPrefix {directory p : Text} :
    Below directory p ↔ directory ++ [separator] <+: p := by
  constructor
  · rintro ⟨rest, rfl⟩
    exact ⟨rest, by simp⟩
  · rintro ⟨rest, rfl⟩
    exact ⟨rest, by simp⟩

instance (directory p : Text) : Decidable (Below directory p) :=
  decidable_of_iff _ below_iff_isPrefix.symm

/-- **An extension does not matter for the directories that a path is below.** -/
theorem below_withoutExtension {directory p : Text} :
    Below directory (withoutExtension p) ↔ Below directory p := by
  constructor
  · rintro ⟨rest, hrest⟩
    obtain ⟨e, he⟩ := exists_append_withoutExtension p
    refine ⟨rest ++ e, ?_⟩
    rw [he, hrest, List.append_assoc, List.cons_append]
  · rintro ⟨rest, rfl⟩
    exact ⟨withoutExtension rest, withoutExtension_append_separator directory rest⟩

end StyleBuild.Path
