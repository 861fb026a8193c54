import StyleBuild.Path.Swap
import StyleBuild.Proofs.Path.Directory

/-!
# Paths as lists of segments

`segments_append_separator` is the one equation about the segments of a path that is cut at a
separator, and a path is determined by its segments (`segments_injective`).

**Fronts.**  The segments of one path are the first ones of another exactly when the two are the
same, or the second is below the first (`segments_isPrefix_iff`).  The separators in front of a path
are its empty segments in front (`segments_stripFront`).

**Names.**  A path without empty segments is its directory and its name, with one separator between
them (`eq_directory_append_name`): nothing has to be trimmed.
-/

namespace StyleBuild.Path

/-- The segments are cut as the library cuts a list. -/
lemma segments_eq_splitOn (p : Text) : segments p = List.splitOn separator p := by
  induction p with
  | nil => rfl
  | cons c p ih =>
    rw [segments] at ih
    rw [segments, Text.splitOn, List.splitOn_cons_eq_if_modifyHead, ih]
    by_cases hc : c = separator
    · simp [hc]
    · obtain ⟨piece, pieces, hp⟩ := List.exists_cons_of_ne_nil (List.splitOn_ne_nil separator p)
      simp [hc, hp]

lemma segments_append_separator (d n : Text) :
    segments (d ++ separator :: n) = segments d ++ segments n := by
  simp only [segments_eq_splitOn, List.splitOn_append_cons_self]

lemma segments_of_not_mem {n : Text} (h : separator ∉ n) : segments n = [n] := by
  rw [segments_eq_splitOn, List.splitOn_eq_singleton h]

@[simp] lemma segments_nil : segments [] = [[]] := rfl

@[simp] lemma segments_separator_cons (p : Text) :
    segments (separator :: p) = [] :: segments p :=
  segments_append_separator [] p

lemma segments_ne_nil (p : Text) : segments p ≠ [] := Text.splitOn_ne_nil separator p

/-- **Putting the separators back** between the segments gives the path. -/
theorem intercalate_segments (p : Text) : [separator].intercalate (segments p) = p := by
  rw [segments_eq_splitOn, List.intercalate_splitOn]

/-- A path is determined by its segments. -/
lemma segments_injective : Function.Injective segments :=
  Function.LeftInverse.injective intercalate_segments

/-! ## Fronts -/

lemma intercalate_append {ds ns : List Text} (hds : ds ≠ []) (hns : ns ≠ []) :
    [separator].intercalate (ds ++ ns) =
      [separator].intercalate ds ++ separator :: [separator].intercalate ns := by
  induction ds with
  | nil => exact absurd rfl hds
  | cons d ds ih =>
    by_cases hrest : ds = []
    · simp [hrest, List.intercalate_cons_of_ne_nil hns]
    · have hmore := List.append_ne_nil_of_left_ne_nil hrest ns
      rw [List.cons_append, List.intercalate_cons_of_ne_nil hmore,
        List.intercalate_cons_of_ne_nil hrest, ih hrest]
      simp

/-- **A front of whole segments** is the path itself, or a directory that it is below. -/
theorem segments_isPrefix_iff {front p : Text} :
    segments front <+: segments p ↔ p = front ∨ Below front p := by
  constructor
  · rintro ⟨rest, hrest⟩
    by_cases hnil : rest = []
    · rw [hnil, List.append_nil] at hrest
      exact Or.inl (segments_injective hrest).symm
    · refine Or.inr ⟨[separator].intercalate rest, ?_⟩
      rw [← intercalate_segments p, ← hrest, intercalate_append (segments_ne_nil front) hnil,
        intercalate_segments]
  · rintro (rfl | ⟨rest, rfl⟩)
    · exact List.prefix_refl _
    · rw [segments_append_separator]
      exact List.prefix_append _ _

/-- A list of segments without the empty ones in front.  Where all of them are empty the last one
stays, since a path has at least one segment. -/
def dropEmpty : List Text → List Text
  | [] :: segment :: rest => dropEmpty (segment :: rest)
  | segments => segments

lemma dropEmpty_nil_cons {rest : List Text} (h : rest ≠ []) :
    dropEmpty ([] :: rest) = dropEmpty rest := by
  obtain ⟨segment, rest, rfl⟩ := List.exists_cons_of_ne_nil h
  rw [dropEmpty]

/-- **Separators in front are empty segments in front.** -/
theorem segments_stripFront (p : Text) : segments (stripFront p) = dropEmpty (segments p) := by
  induction p with
  | nil => rfl
  | cons c p ih =>
    by_cases hc : c = separator
    · rw [hc, stripFront_cons_separator, segments_separator_cons,
        dropEmpty_nil_cons (segments_ne_nil p), ih]
    · have hfront : stripFront (c :: p) = c :: p :=
        stripFront_of_head?_ne fun h => hc (Option.some.inj h)
      obtain ⟨piece, pieces, hp⟩ := List.exists_cons_of_ne_nil (segments_ne_nil p)
      have hsegments : segments (c :: p) = (c :: piece) :: pieces := by
        rw [segments] at hp
        simp [segments, Text.splitOn, hc, hp]
      rw [hfront, hsegments, dropEmpty]
      simp

/-! ## Names -/

/-- A path that begins with a segment and a separator has that segment. -/
lemma mem_segments_append {segment : Text} (hsegment : separator ∉ segment) (r : Text) :
    segment ∈ segments (segment ++ separator :: r) := by
  rw [segments_append_separator, segments_of_not_mem hsegment]
  exact List.mem_cons_self

/-- A separator at the end of a path leaves an empty segment. -/
lemma getLast?_ne_of_nil_notMem_segments {p : Text} (h : [] ∉ segments p) :
    p.getLast? ≠ some separator := by
  intro hlast
  obtain ⟨q, rfl⟩ := List.getLast?_eq_some_iff.1 hlast
  rw [segments_append_separator q [], List.mem_append, not_or] at h
  exact h.2 (by simp)

/-- A path without empty segments is a single name, or its directory, a separator and its name. -/
lemma eq_directory_append_name {p : Text} (hhead : p.head? ≠ some separator)
    (h : [] ∉ segments p) :
    (directory p = [] ∧ p = name p) ∨
      (directory p ≠ [] ∧ p = directory p ++ separator :: name p) := by
  rcases segment_or_append p with hp | ⟨d, n, hn, rfl⟩
  · exact Or.inl ⟨directory_of_not_mem hp, (name_of_not_mem hp).symm⟩
  · obtain ⟨hd, hdhead⟩ := head?_ne_of_append hhead
    rw [segments_append_separator, List.mem_append, not_or] at h
    rw [name_append_separator d n hn,
      directory_append_separator hn (stripBack_ne_nil hd hdhead),
      stripBack_of_getLast?_ne (getLast?_ne_of_nil_notMem_segments h.1)]
    exact Or.inr ⟨hd, rfl⟩

end StyleBuild.Path
