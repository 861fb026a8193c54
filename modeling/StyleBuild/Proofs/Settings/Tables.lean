import StyleBuild.Proofs.Settings.Accepted
import StyleBuild.Proofs.Table

/-!
# Substitution tables that were accepted

A table that is read successfully is the raw table with all separators removed from the ends of its
keys and values, entry for entry (`normalise_eq_ok_iff`).  No key is empty then, but a replacement
may be: it stands for the module root.

So the keys of an accepted table are trimmed and not empty, and its replacements are trimmed
(`Accepted.trimmed`).
-/

namespace StyleBuild

namespace Path

/-- A path without separators at its ends. -/
structure Trimmed (p : Text) : Prop where
  front : p.head? ≠ some separator
  back : p.getLast? ≠ some separator

lemma trimmed_strip (p : Text) : Trimmed (strip p) :=
  ⟨head?_stripBack (head?_stripFront p), getLast?_stripBack _⟩

end Path

namespace Settings

/-- An entry of a table as it is kept. -/
def stripEntry (e : Text × Text) : Text × Text := (Path.strip e.1, Path.strip e.2)

/-- The entries are added to what was normalised before, and none of their keys is empty. -/
lemma entries_of_normaliseFrom {es : List (Text × Text)} {done t : Table Text}
    (h : normaliseFrom done es = .ok t) :
    t.entries = done.entries ++ es.map stripEntry ∧ ∀ e ∈ es, Path.strip e.1 ≠ [] := by
  induction es generalizing done with
  | nil =>
    obtain rfl := Except.ok.inj h
    simp
  | cons e es ih =>
    obtain ⟨rawKey, rawValue⟩ := e
    simp only [normaliseFrom] at h
    split at h
    · cases h
    · next hkey =>
      split at h
      · cases h
      · next hfree =>
        rw [Bool.not_eq_true, Table.contains_eq_false_iff] at hfree
        obtain ⟨hentries, hkeys⟩ := ih h
        rw [Table.entries_insert_of_notMem hfree, List.append_assoc] at hentries
        exact ⟨hentries, List.forall_mem_cons.2 ⟨hkey, hkeys⟩⟩

/-- Entries whose stripped keys are there and new can be added. -/
lemma normaliseFrom_of_entries {es : List (Text × Text)} {done t : Table Text}
    (hentries : t.entries = done.entries ++ es.map stripEntry)
    (hkeys : ∀ e ∈ es, Path.strip e.1 ≠ []) : normaliseFrom done es = .ok t := by
  induction es generalizing done with
  | nil =>
    rw [List.map_nil, List.append_nil] at hentries
    rw [normaliseFrom, Table.ext hentries]
  | cons e es ih =>
    obtain ⟨rawKey, rawValue⟩ := e
    rw [List.forall_mem_cons] at hkeys
    -- The keys of `t` are different, so the first one is not among those of `done`.
    have hfree : Path.strip rawKey ∉ done.keys := Table.notMem_keys_of_entries hentries
    rw [normaliseFrom, if_neg hkeys.1, if_neg (by rw [Table.contains_eq_false_iff.2 hfree]; simp)]
    refine ih ?_ hkeys.2
    rw [Table.entries_insert_of_notMem hfree, hentries, List.append_assoc]
    rfl

/-- **A table is kept entry for entry**, without the separators at the ends; it is refused only
where nothing is left of a key, or two keys become the same. -/
theorem normalise_eq_ok_iff {raw t : Table Text} :
    normalise raw = .ok t ↔
      t.entries = raw.entries.map stripEntry ∧ ∀ e ∈ raw.entries, Path.strip e.1 ≠ [] :=
  ⟨entries_of_normaliseFrom, fun h => normaliseFrom_of_entries h.1 h.2⟩

/-- What an entry of an accepted table looks like. -/
structure TrimmedEntry (e : Text × Text) : Prop where
  key_ne_nil : e.1 ≠ []
  key : Path.Trimmed e.1
  value : Path.Trimmed e.2

lemma trimmedEntry_of_normalise {raw t : Table Text} (h : normalise raw = .ok t) {e : Text × Text}
    (he : e ∈ t.entries) : TrimmedEntry e := by
  obtain ⟨hentries, hkeys⟩ := normalise_eq_ok_iff.1 h
  rw [hentries, List.mem_map] at he
  obtain ⟨raw, hraw, rfl⟩ := he
  exact ⟨hkeys raw hraw, Path.trimmed_strip _, Path.trimmed_strip _⟩

lemma trimmedEntry_of_readTable {table : Text} {place : List Text} {v : Value} {t : Table Text}
    (h : readTable table place v = .ok t) {e : Text × Text} (he : e ∈ t.entries) :
    TrimmedEntry e := by
  unfold readTable at h
  split at h
  · next entries =>
    cases hentries : readEntries place entries with
    | ok es =>
      rw [hentries] at h
      simp only [Reading.andThen] at h
      split at h
      · next t' hnormalise =>
        obtain rfl := Reading.ok.inj h
        exact trimmedEntry_of_normalise hnormalise he
      · cases h
    | bad cs =>
      rw [hentries] at h
      cases h
    | stop fault =>
      rw [hentries] at h
      cases h
  · cases h

/-- A table that is not given has no entries, so its entries are trimmed, too. -/
lemma trimmedEntry_of_field {entries : List (Scalar × Value)} {names : List Text} {table : Text}
    {t : Table Text} (h : field entries names .empty (readTable table) = .ok t) {e : Text × Text}
    (he : e ∈ t.entries) : TrimmedEntry e := by
  rcases field_eq_ok h with rfl | ⟨place, v, hread⟩
  · cases he
  · exact trimmedEntry_of_readTable hread he

/-- **The tables of accepted settings are trimmed.** -/
theorem Accepted.trimmed {s : Settings} (h : s.Accepted) {e : Text × Text}
    (he : e ∈ s.aliases.entries ∨ e ∈ s.replace.entries) : TrimmedEntry e := by
  rcases h.eq_default_or_readFields with rfl | ⟨entries, hread⟩
  · rcases he with he | he <;> cases he
  · obtain ⟨-, haliases, hreplace, -⟩ := readFields_eq_ok_iff.1 hread
    rcases he with he | he
    · exact trimmedEntry_of_field haliases he
    · exact trimmedEntry_of_field hreplace he

end Settings

end StyleBuild
