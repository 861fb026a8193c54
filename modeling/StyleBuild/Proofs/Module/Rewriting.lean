import StyleBuild.Module.Specifier
import StyleBuild.Proofs.Path.Segments

/-!
# Rewriting whole segments

An alias swaps what a path begins with, and so does the module base.  Both are written on
characters: the path is compared with the prefix, then with the prefix and a separator, and is cut
at the length of the prefix.  On segments there is nothing to cut.  A prefix matches exactly where
its segments are the first ones of the path, and they are replaced as a list (`swap`,
`segments_anchored`).

That holds for every path, prefix and replacement, also where segments are empty: a separator at an
end or a doubled one makes an empty segment like any other.  So a whole table is a fold over lists
of segments (`segments_anchoredAll`), and each segment of the outcome is one of the path or of a
replacement (`mem_swapAll`): none is cut in the middle.
-/

namespace StyleBuild

namespace Path

/-- Swaps the first segments of a list. -/
def swap (front replacement segments : List Text) : List Text :=
  if front <+: segments then replacement ++ segments.drop front.length else segments

/-- **Swapping a prefix of a path is swapping its first segments.** -/
theorem segments_anchored (path front replacement : Text) :
    segments (anchored path front replacement) =
      swap (segments front) (segments replacement) (segments path) := by
  rw [swap]
  split_ifs with h
  · rcases segments_isPrefix_iff.1 h with rfl | ⟨rest, rfl⟩
    · rw [anchored_self, List.drop_length, List.append_nil]
    · rw [anchored_append, segments_append_separator, segments_append_separator, List.drop_left]
  · rw [segments_isPrefix_iff, not_or] at h
    rw [anchored_eq_of_not_append h.1 fun rest hrest => h.2 ⟨rest, hrest⟩]

/-- Empty segments match like any others. -/
example : segments (anchored "a//b".toList "a/".toList "x".toList) = ["x".toList, "b".toList] := by
  decide

/-! ## Tables -/

/-- Swaps the prefixes of a path by entries that are applied in order. -/
def anchoredAll (entries : List (Text × Text)) (path : Text) : Text :=
  entries.foldl (fun p e => anchored p e.1 e.2) path

/-- Swaps first segments by entries that are applied in order. -/
def swapAll (entries : List (Text × Text)) (segs : List Text) : List Text :=
  entries.foldl (fun segs e => swap (segments e.1) (segments e.2) segs) segs

/-- **A table of any length is applied to the segments.** -/
theorem segments_anchoredAll (entries : List (Text × Text)) (path : Text) :
    segments (anchoredAll entries path) = swapAll entries (segments path) := by
  induction entries generalizing path with
  | nil => rfl
  | cons e entries ih =>
    rw [anchoredAll, swapAll, List.foldl_cons, List.foldl_cons, ← segments_anchored]
    exact ih (anchored path e.1 e.2)

lemma mem_swap {front replacement segs : List Text} {segment : Text}
    (h : segment ∈ swap front replacement segs) : segment ∈ replacement ∨ segment ∈ segs := by
  unfold swap at h
  split_ifs at h
  · rcases List.mem_append.1 h with h | h
    · exact Or.inl h
    · exact Or.inr (List.mem_of_mem_drop h)
  · exact Or.inr h

/-- No segment is cut: each one was there, or comes from a replacement. -/
lemma mem_swapAll {entries : List (Text × Text)} {segs : List Text} {segment : Text}
    (h : segment ∈ swapAll entries segs) :
    segment ∈ segs ∨ ∃ e ∈ entries, segment ∈ segments e.2 := by
  induction entries generalizing segs with
  | nil => exact Or.inl h
  | cons e entries ih =>
    rcases ih h with hsegs | ⟨e', he', hsegment⟩
    · rcases mem_swap hsegs with hnew | hold
      · exact Or.inr ⟨e, List.mem_cons_self, hnew⟩
      · exact Or.inl hold
    · exact Or.inr ⟨e', List.mem_cons_of_mem e he', hsegment⟩

end Path

namespace Settings

open StyleBuild.Path

/-- The aliases are applied before the other table. -/
lemma substitute_eq (s : Settings) (path : Text) :
    s.substitute path =
      s.replace.entries.foldl (fun p e => raw p e.1 e.2) (anchoredAll s.aliases.entries path) := rfl

/-- **The module base is taken off segment by segment**, and so are the separators around it. -/
theorem segments_modulePath (s : Settings) (path : Text) :
    segments (s.modulePath path) =
      dropEmpty (if s.moduleBase = [] then dropEmpty (segments path)
        else swap (segments s.moduleBase) [[]] (dropEmpty (segments path))) := by
  rw [modulePath, segments_stripFront]
  split_ifs
  · rw [segments_stripFront]
  · rw [segments_anchored, segments_stripFront, segments_nil]

/-- **Aliases and the module base rewrite segments.**  One swap of a prefix is one swap of first
segments, a table of any length is the fold of these over the segments, and no segment is cut by
it. -/
theorem rewrites_segments :
    (∀ path front replacement : Text,
      segments (anchored path front replacement) =
        swap (segments front) (segments replacement) (segments path)) ∧
    (∀ (entries : List (Text × Text)) (path : Text),
      segments (anchoredAll entries path) = swapAll entries (segments path) ∧
        ∀ segment ∈ segments (anchoredAll entries path),
          segment ∈ segments path ∨ ∃ e ∈ entries, segment ∈ segments e.2) ∧
    ∀ (s : Settings) (path : Text),
      s.substitute path =
        s.replace.entries.foldl (fun p e => raw p e.1 e.2) (anchoredAll s.aliases.entries path) ∧
      segments (s.modulePath path) =
        dropEmpty (if s.moduleBase = [] then dropEmpty (segments path)
          else swap (segments s.moduleBase) [[]] (dropEmpty (segments path))) := by
  refine ⟨segments_anchored, fun entries path => ?_, fun s path => ?_⟩
  · refine ⟨segments_anchoredAll entries path, fun segment hsegment => ?_⟩
    rw [segments_anchoredAll] at hsegment
    exact mem_swapAll hsegment
  · exact ⟨s.substitute_eq path, s.segments_modulePath path⟩

end Settings

end StyleBuild
