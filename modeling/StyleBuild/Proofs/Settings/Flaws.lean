import Mathlib.Data.List.Forall2
import StyleBuild.Proofs.Settings.Tables

/-!
# What makes a table ambiguous

A substitution table is refused for one of two reasons, each of which concerns a single entry: its
key is made of separators, or its key is that of an earlier entry once both are stripped.  The
reader meets the entries one after the other, and the statement about all of them is
`Unambiguous`: every key names a path, and no two name the same.

Stripping takes off all the separators at both ends and nothing else (`Path.stripsTo_strip`), so
whether a table is unambiguous does not depend on how the separators are taken off.

An unambiguous table is kept entry for entry (`exists_normaliseFrom_iff`), and any other one is
refused for the first entry after which it is ambiguous (`normalise_eq_error_iff`).
-/

namespace StyleBuild

namespace Path

/-- `q` is what is left of `p` without all the separators at its ends. -/
def StripsTo (p q : Text) : Prop :=
  Trimmed q ∧ ∃ i j, p = List.replicate i separator ++ q ++ List.replicate j separator

/-- **Stripping takes off the separators at both ends.** -/
theorem stripsTo_strip (p : Text) : StripsTo p (strip p) := by
  obtain ⟨i, hfront⟩ := exists_replicate_append_stripFront p
  obtain ⟨j, hback⟩ := exists_stripBack_append_replicate (stripFront p)
  refine ⟨trimmed_strip p, i, j, ?_⟩
  rw [List.append_assoc, strip, ← hback]
  exact hfront

/-- Nothing is left of separators alone. -/
lemma strip_eq_nil_iff {p : Text} : strip p = [] ↔ ∀ c ∈ p, c = separator := by
  constructor
  · intro hnil
    obtain ⟨-, i, j, hp⟩ := stripsTo_strip p
    rw [hnil] at hp
    intro c hc
    rw [hp] at hc
    simp only [List.append_nil, List.mem_append, List.mem_replicate] at hc
    exact hc.elim And.right And.right
  · intro h
    refine stripBack_eq_nil_iff.2 fun c hc => h c ?_
    exact (List.dropWhile_suffix _).subset hc

end Path

namespace Settings

/-- The keys of the entries name paths, and different ones. -/
structure Unambiguous (es : List (Text × Text)) : Prop where
  named : ∀ e ∈ es, ∃ c ∈ e.1, c ≠ Path.separator
  apart : (es.map fun e => Path.strip e.1).Nodup

/-- What is wrong with an entry that comes after others. -/
inductive Flawed (earlier : List (Text × Text)) (e : Text × Text) : TableFlaw → Prop
  /-- There is nothing but separators in the key. -/
  | unnamed (h : ∀ c ∈ e.1, c = Path.separator) : Flawed earlier e (.emptyKey e.1)
  /-- The key is there already. -/
  | repeated (hnamed : ∃ c ∈ e.1, c ≠ Path.separator) {other : Text × Text}
      (hother : other ∈ earlier) (h : Path.strip other.1 = Path.strip e.1) :
      Flawed earlier e (.repeatedKey e.1 (Path.strip e.1))

variable {es earlier later : List (Text × Text)} {e : Text × Text} {flaw : TableFlaw}

lemma strip_ne_nil_iff {p : Text} : Path.strip p ≠ [] ↔ ∃ c ∈ p, c ≠ Path.separator := by
  rw [ne_eq, Path.strip_eq_nil_iff]
  simp

lemma unambiguous_nil : Unambiguous [] := ⟨nofun, List.nodup_nil⟩

/-- An entry that makes a table ambiguous has a flaw. -/
lemma exists_flawed (hearlier : Unambiguous earlier) (h : ¬ Unambiguous (earlier ++ [e])) :
    ∃ flaw, Flawed earlier e flaw := by
  by_cases hnamed : ∃ c ∈ e.1, c ≠ Path.separator
  · by_cases hrepeated : Path.strip e.1 ∈ earlier.map fun e => Path.strip e.1
    · obtain ⟨other, hother, hkey⟩ := List.mem_map.1 hrepeated
      exact ⟨_, .repeated hnamed hother hkey⟩
    · refine absurd ⟨fun e' he' => ?_, ?_⟩ h
      · rcases List.mem_append.1 he' with hmem | hmem
        · exact hearlier.named e' hmem
        · rwa [List.mem_singleton.1 hmem]
      · rw [List.map_append, List.map_singleton]
        exact (List.perm_append_singleton _ _).nodup_iff.2
          (List.nodup_cons.2 ⟨hrepeated, hearlier.apart⟩)
  · push Not at hnamed
    exact ⟨_, .unnamed hnamed⟩

/-- The key that is wrong is in the message, as it was written. -/
lemma Flawed.quoted_isInfix (h : Flawed earlier e flaw) (table : Text) :
    Text.quoted e.1 <:+: flaw.message table := by
  cases h with
  | unnamed => exact ⟨table ++ " keys must name a path, got ".toList, [], List.append_nil _⟩
  | repeated =>
    exact ⟨table ++ " key ".toList, " duplicates ".toList ++ Text.quoted (Path.strip e.1),
      by simp [TableFlaw.message]⟩

/-! ## Normalising -/

/-- **A table is kept exactly when it is unambiguous.** -/
theorem exists_normaliseFrom_iff :
    (∃ t, normaliseFrom .empty es = .ok t) ↔ Unambiguous es := by
  constructor
  · rintro ⟨t, ht⟩
    obtain ⟨hentries, hkeys⟩ := entries_of_normaliseFrom ht
    refine ⟨fun e he => strip_ne_nil_iff.1 (hkeys e he), ?_⟩
    have hnodup := t.nodup
    rw [hentries] at hnodup
    simpa [Table.empty, Function.comp_def, stripEntry] using hnodup
  · rintro ⟨hnamed, hapart⟩
    have hnodup : ((es.map stripEntry).map Prod.fst).Nodup := by
      rw [List.map_map]
      exact hapart
    exact ⟨⟨_, hnodup⟩, normaliseFrom_of_entries rfl fun e he => strip_ne_nil_iff.2 (hnamed e he)⟩

/-- Entries are added one after the other. -/
lemma normaliseFrom_append {done t : Table Text} (h : normaliseFrom done earlier = .ok t) :
    normaliseFrom done (earlier ++ later) = normaliseFrom t later := by
  induction earlier generalizing done with
  | nil =>
    obtain rfl := Except.ok.inj h
    rfl
  | cons e es ih =>
    obtain ⟨rawKey, rawValue⟩ := e
    simp only [normaliseFrom, List.cons_append] at h ⊢
    split at h
    · cases h
    · next hkey =>
      split at h
      · cases h
      · next hfree =>
        rw [if_neg hkey, if_neg hfree]
        exact ih h

/-- The first flaw ends the reading. -/
lemma Flawed.normaliseFrom_eq (hearlier : Unambiguous earlier) (h : Flawed earlier e flaw) :
    normaliseFrom .empty (earlier ++ e :: later) = .error flaw := by
  obtain ⟨t, ht⟩ := exists_normaliseFrom_iff.2 hearlier
  obtain ⟨rawKey, rawValue⟩ := e
  rw [normaliseFrom_append ht, normaliseFrom]
  cases h with
  | unnamed hkey => rw [if_pos (Path.strip_eq_nil_iff.2 hkey)]
  | repeated hnamed hother hkey =>
    have htaken : Path.strip rawKey ∈ t.keys := by
      rw [Table.keys, (entries_of_normaliseFrom ht).1, ← hkey]
      exact List.mem_map.2 ⟨stripEntry _, List.mem_map_of_mem hother, rfl⟩
    rw [if_neg (strip_ne_nil_iff.2 hnamed), if_pos (Table.contains_eq_true_iff.2 htaken)]

/-- **A table is refused for its first flaw.** -/
theorem normalise_eq_error_iff {raw : Table Text} :
    normalise raw = .error flaw ↔ ∃ earlier e later, raw.entries = earlier ++ e :: later ∧
      Unambiguous earlier ∧ Flawed earlier e flaw := by
  constructor
  · intro h
    have hambiguous : ¬ Unambiguous raw.entries := by
      intro hunambiguous
      obtain ⟨t, ht⟩ := exists_normaliseFrom_iff.2 hunambiguous
      rw [normalise, ht] at h
      cases h
    obtain ⟨earlier, e, later, hraw, hearlier, he⟩ :=
      exists_first_refused Unambiguous unambiguous_nil hambiguous
    obtain ⟨flaw', hflaw'⟩ := exists_flawed hearlier he
    rw [normalise, hraw, hflaw'.normaliseFrom_eq hearlier] at h
    obtain rfl := Except.error.inj h
    exact ⟨earlier, e, later, hraw, hearlier, hflaw'⟩
  · rintro ⟨earlier, e, later, hraw, hearlier, hflaw⟩
    rw [normalise, hraw]
    exact hflaw.normaliseFrom_eq hearlier

/-- **Normalising accepts exactly the unambiguous tables.**  Each entry is kept in its place,
without the separators at the ends of its key and its value; a table that is refused is refused for
its first flaw, in words that quote the key. -/
theorem normalise_exact (raw : Table Text) :
    ((∃ t, normalise raw = .ok t) ↔ Unambiguous raw.entries) ∧
    (∀ t, normalise raw = .ok t → List.Forall₂
      (fun e kept => Path.StripsTo e.1 kept.1 ∧ Path.StripsTo e.2 kept.2) raw.entries t.entries) ∧
    ∀ flaw, normalise raw = .error flaw ↔ ∃ earlier e later, raw.entries = earlier ++ e :: later ∧
      Unambiguous earlier ∧ Flawed earlier e flaw ∧
        ∀ table, Text.quoted e.1 <:+: flaw.message table := by
  refine ⟨exists_normaliseFrom_iff, fun t ht => ?_, fun flaw => ?_⟩
  · rw [(normalise_eq_ok_iff.1 ht).1, List.forall₂_map_right_iff, List.forall₂_same]
    exact fun e _ => ⟨Path.stripsTo_strip e.1, Path.stripsTo_strip e.2⟩
  · rw [normalise_eq_error_iff]
    constructor
    · rintro ⟨earlier, e, later, hraw, hearlier, hflaw⟩
      exact ⟨earlier, e, later, hraw, hearlier, hflaw, hflaw.quoted_isInfix⟩
    · rintro ⟨earlier, e, later, hraw, hearlier, hflaw, -⟩
      exact ⟨earlier, e, later, hraw, hearlier, hflaw⟩

/-! ### A key that is there already

The third key is the first one with more separators; that the fourth one is empty does not count any
more. -/

namespace Ambiguity

def clear : Table Text :=
  ⟨[("/ui".toList, "lib//".toList), ("ui/x".toList, "/".toList)], by decide⟩

def ambiguous : Table Text :=
  ⟨clear.entries ++ [("//ui/".toList, "y".toList), ("/".toList, "z".toList)], by decide⟩

lemma unambiguous_clear : Unambiguous clear.entries where
  named e he :=
    have hstrip : ∀ e ∈ clear.entries, Path.strip e.1 ≠ [] := by decide
    strip_ne_nil_iff.1 (hstrip e he)
  apart := by decide

lemma flawed_repeated :
    Flawed clear.entries ("//ui/".toList, "y".toList) (.repeatedKey "//ui/".toList "ui".toList) :=
  .repeated (strip_ne_nil_iff.1 (by decide)) List.mem_cons_self rfl

theorem normalise_exact_repeated :
    (∃ t, normalise clear = .ok t ∧
      t.entries = [("ui".toList, "lib".toList), ("ui/x".toList, [])]) ∧
      normalise ambiguous = .error (.repeatedKey "//ui/".toList "ui".toList) := by
  obtain ⟨t, ht⟩ := (normalise_exact clear).1.2 unambiguous_clear
  refine ⟨⟨t, ht, ?_⟩, ?_⟩
  · exact (normalise_eq_ok_iff.1 ht).1
  · exact ((normalise_exact ambiguous).2.2 _).2 ⟨clear.entries, _, _, rfl, unambiguous_clear,
      flawed_repeated, flawed_repeated.quoted_isInfix⟩

end Ambiguity

end Settings

end StyleBuild
