import Mathlib.Data.List.Induction
import Mathlib.Tactic.Lemma
import StyleBuild.Table

/-!
# Filling a table

Tables are filled entry after entry, and whoever fills one with entries of others stops at the first
entry that does not fit.  Two facts serve every such loop.

* A new key goes to the end (`Table.entries_insert_of_notMem`), so that a table of new keys has the
  entries in the order in which they came (`Table.ofList_entries`).
* Where a list is refused though the empty one is not, one entry is the first to be refused, after a
  front that is not (`exists_first_refused`).

`Table.find?_foldl_erase` is the loop that takes entries out again.  `Table.map` puts other values
under the same keys, and the operations commute with it.
-/

namespace StyleBuild

/-- A list that is refused has a longest front that is accepted, and an entry after it. -/
lemma exists_first_refused {α : Type} (accepts : List α → Prop) (hnil : accepts [])
    {l : List α} (h : ¬ accepts l) :
    ∃ earlier a later, l = earlier ++ a :: later ∧ accepts earlier ∧
      ¬ accepts (earlier ++ [a]) := by
  induction l using List.reverseRecOn with
  | nil => exact absurd hnil h
  | append_singleton l a ih =>
    by_cases hl : accepts l
    · exact ⟨l, a, [], rfl, hl, h⟩
    · obtain ⟨earlier, b, later, rfl, hearlier, hb⟩ := ih hl
      exact ⟨earlier, b, later ++ [a], by simp, hearlier, hb⟩

namespace Table

variable {α : Type} {t : Table α} {k : Text} {v : α}

lemma contains_eq_false_iff : t.contains k = false ↔ k ∉ t.keys := by
  rw [contains, Option.isSome_eq_false_iff, Option.isNone_iff_eq_none, find?_eq_none_iff]

lemma contains_eq_true_iff : t.contains k = true ↔ k ∈ t.keys := by
  rw [← Bool.not_eq_false, contains_eq_false_iff, not_not]

/-- A new key goes to the end. -/
lemma put_of_lookup_eq_none {es : List (Text × α)} (h : lookup k es = none) :
    put k v es = es ++ [(k, v)] := by
  induction es with
  | nil => rfl
  | cons e es ih =>
    obtain ⟨a, w⟩ := e
    by_cases ha : a = k
    · rw [lookup, if_pos ha] at h
      cases h
    · rw [lookup, if_neg ha] at h
      rw [put, if_neg ha, ih h, List.cons_append]

lemma entries_insert_of_notMem (h : k ∉ t.keys) :
    (t.insert k v).entries = t.entries ++ [(k, v)] :=
  put_of_lookup_eq_none (find?_eq_none_iff.2 h)

/-- In a table that goes on with an entry, that entry has a new key. -/
lemma notMem_keys_of_entries {u : Table α} {e : Text × α} {es : List (Text × α)}
    (h : u.entries = t.entries ++ e :: es) : e.1 ∉ t.keys := by
  have hnodup := u.nodup
  rw [h, List.map_append, List.map_cons] at hnodup
  exact fun hmem => (List.nodup_append.1 hnodup).2.2 _ hmem _ List.mem_cons_self rfl

lemma entries_foldl_insert {u : Table α} {es : List (Text × α)}
    (h : u.entries = t.entries ++ es) : es.foldl (fun t e => t.insert e.1 e.2) t = u := by
  induction es generalizing t with
  | nil =>
    rw [List.append_nil] at h
    exact (ext h).symm
  | cons e es ih =>
    refine ih ?_
    rw [entries_insert_of_notMem (notMem_keys_of_entries h), h, List.append_assoc]
    rfl

/-- A table is made again from its entries. -/
theorem ofList_entries (t : Table α) : ofList t.entries = t := entries_foldl_insert rfl

/-! ## Emptying it -/

/-- Exactly the erased keys are free. -/
lemma find?_foldl_erase (t : Table α) (keys : List Text) (j : Text) :
    (keys.foldl erase t).find? j = if j ∈ keys then none else t.find? j := by
  induction keys generalizing t with
  | nil => rfl
  | cons k keys ih =>
    rw [List.foldl_cons, ih, find?_erase]
    by_cases hk : j = k <;> simp [hk]

/-! ## Other values under the same keys -/

variable {β : Type} {f g : α → β}

/-- The table with `f` of each value. -/
def map (f : α → β) (t : Table α) : Table β where
  entries := t.entries.map fun e => (e.1, f e.2)
  nodup := by rw [List.map_map]; exact t.nodup

lemma put_map (f : α → β) (k : Text) (v : α) (es : List (Text × α)) :
    put k (f v) (es.map fun e => (e.1, f e.2)) = (put k v es).map fun e => (e.1, f e.2) := by
  induction es with
  | nil => rfl
  | cons e es ih =>
    obtain ⟨a, w⟩ := e
    rw [List.map_cons, put, put]
    split
    · rfl
    · rw [ih, List.map_cons]

lemma map_insert (f : α → β) (t : Table α) (k : Text) (v : α) :
    (t.insert k v).map f = (t.map f).insert k (f v) :=
  ext (put_map f k v t.entries).symm

lemma map_erase (f : α → β) (t : Table α) (k : Text) : (t.erase k).map f = (t.map f).erase k := by
  refine ext ?_
  change List.map _ (List.filter _ _) = List.filter _ (List.map _ _)
  rw [List.filter_map]
  rfl

lemma map_foldl_erase (f : α → β) (t : Table α) (keys : List Text) :
    (keys.foldl erase t).map f = keys.foldl erase (t.map f) := by
  induction keys generalizing t with
  | nil => rfl
  | cons k keys ih => rw [List.foldl_cons, ih, map_erase, List.foldl_cons]

lemma map_congr {t : Table α} (h : ∀ k v, t.find? k = some v → f v = g v) : t.map f = t.map g :=
  ext (List.map_congr_left fun e he => by rw [h e.1 e.2 (find?_eq_some_iff.2 he)])

/-- Where two functions differ on the value of one key only, that value is changed. -/
lemma map_eq_adjust {t : Table α} {k : Text} {u : β → β}
    (h : ∀ j v, t.find? j = some v → g v = if j = k then u (f v) else f v) :
    t.map g = (t.map f).adjust k u := by
  refine ext ?_
  change t.entries.map _ = change k u (t.entries.map _)
  rw [change, List.map_map]
  refine List.map_congr_left fun e he => ?_
  rw [h e.1 e.2 (find?_eq_some_iff.2 he), Function.comp_apply]
  by_cases hk : e.1 = k
  · rw [if_pos hk, if_pos hk]
  · rw [if_neg hk, if_neg hk]

end Table

end StyleBuild
