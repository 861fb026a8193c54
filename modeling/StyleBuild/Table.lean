import StyleBuild.Text.Basic

/-!
# Tables in the order of insertion

A `Table` binds texts to values and remembers the order in which its keys came in.  That no key is
bound twice is part of the type, so a table is both a map (`find?`) and a list of entries
(`entries`), and the two views agree (`find?_eq_some_iff`).

* `insert` binds a key.  A key that is already bound keeps its place; a new one goes to the end.
* `erase` removes a binding; a key inserted again after that goes to the end.
* `adjust` changes the value of one key and moves nothing.

`find?_insert`, `find?_erase` and `find?_adjust` describe the three as operations on maps.
-/

namespace StyleBuild

/-- Texts bound to values, in the order of insertion. -/
structure Table (α : Type) where
  entries : List (Text × α)
  nodup : (entries.map Prod.fst).Nodup

namespace Table

variable {α β : Type}

/-- Tables with the same entries are the same. -/
@[ext] theorem ext {s t : Table α} (h : s.entries = t.entries) : s = t := by
  cases s; cases t; simp_all

/-! ## Entries as a map -/

/-- The first value bound to `k` in a list of entries. -/
def lookup (k : Text) : List (Text × α) → Option α
  | [] => none
  | (a, v) :: r => if a = k then some v else lookup k r

/-- Binds `k` in place if it is bound, at the end otherwise. -/
def put (k : Text) (v : α) : List (Text × α) → List (Text × α)
  | [] => [(k, v)]
  | (a, w) :: r => if a = k then (k, v) :: r else (a, w) :: put k v r

/-- Changes the value of `k`. -/
def change (k : Text) (f : α → α) (es : List (Text × α)) : List (Text × α) :=
  es.map fun e => if e.1 = k then (e.1, f e.2) else e

theorem keys_put (k : Text) (v : α) (es : List (Text × α)) :
    (put k v es).map Prod.fst =
      if k ∈ es.map Prod.fst then es.map Prod.fst else es.map Prod.fst ++ [k] := by
  induction es with
  | nil => simp [put]
  | cons e r ih =>
    obtain ⟨a, w⟩ := e
    by_cases h : a = k
    · simp [put, h]
    · simp only [put, h, if_false, List.map_cons, ih, List.mem_cons, Ne.symm h, false_or]
      split <;> simp

theorem keys_change (k : Text) (f : α → α) (es : List (Text × α)) :
    (change k f es).map Prod.fst = es.map Prod.fst := by
  rw [change, List.map_map]
  refine List.map_congr_left fun e _ => ?_
  simp only [Function.comp_apply]
  split <;> rfl

theorem lookup_eq_none_iff {k : Text} {es : List (Text × α)} :
    lookup k es = none ↔ k ∉ es.map Prod.fst := by
  induction es with
  | nil => simp [lookup]
  | cons e r ih =>
    obtain ⟨a, w⟩ := e
    by_cases h : a = k
    · simp [lookup, h]
    · rw [lookup, if_neg h, ih]
      simp [Ne.symm h]

theorem mem_of_lookup {k : Text} {v : α} {es : List (Text × α)} (h : lookup k es = some v) :
    (k, v) ∈ es := by
  induction es with
  | nil => simp [lookup] at h
  | cons e r ih =>
    obtain ⟨a, w⟩ := e
    by_cases ha : a = k
    · simp_all [lookup]
    · rw [lookup, if_neg ha] at h
      exact List.mem_cons_of_mem _ (ih h)

theorem lookup_of_mem {k : Text} {v : α} {es : List (Text × α)}
    (nodup : (es.map Prod.fst).Nodup) (h : (k, v) ∈ es) : lookup k es = some v := by
  induction es with
  | nil => simp at h
  | cons e r ih =>
    obtain ⟨a, w⟩ := e
    simp only [List.map_cons, List.nodup_cons] at nodup
    rcases List.mem_cons.1 h with h | h
    · simp_all [lookup]
    · have ha : a ≠ k := fun eq => nodup.1 (eq ▸ List.mem_map_of_mem h)
      rw [lookup, if_neg ha]
      exact ih nodup.2 h

theorem lookup_put (k j : Text) (v : α) (es : List (Text × α)) :
    lookup j (put k v es) = if j = k then some v else lookup j es := by
  induction es with
  | nil => by_cases h : k = j <;> simp [put, lookup, h, eq_comm]
  | cons e r ih =>
    obtain ⟨a, w⟩ := e
    by_cases h : a = k
    · by_cases hj : j = k
      · simp [put, lookup, h, hj]
      · simp [put, lookup, h, hj, Ne.symm hj]
    · by_cases hj : a = j
      · subst hj
        simp [put, lookup, h]
      · rw [put, if_neg h, lookup, if_neg hj, ih, lookup, if_neg hj]

theorem lookup_filter (p : Text → Bool) (j : Text) (es : List (Text × α)) :
    lookup j (es.filter fun e => p e.1) = if p j then lookup j es else none := by
  induction es with
  | nil => simp [lookup]
  | cons e r ih =>
    obtain ⟨a, w⟩ := e
    by_cases hj : a = j
    · subst hj
      by_cases hp : p a
      · simp [hp, lookup]
      · simp only [List.filter_cons, hp, if_false, Bool.false_eq_true]
        rw [ih]
        simp [hp]
    · by_cases hp : p a
      · simp only [List.filter_cons, hp, if_true, lookup, hj, if_false]
        exact ih
      · simp only [List.filter_cons, hp, if_false, lookup, hj, Bool.false_eq_true]
        exact ih

theorem lookup_change (k j : Text) (f : α → α) (es : List (Text × α)) :
    lookup j (change k f es) = (lookup j es).map fun v => if j = k then f v else v := by
  induction es with
  | nil => simp [change, lookup]
  | cons e r ih =>
    obtain ⟨a, w⟩ := e
    simp only [change, List.map_cons] at ih ⊢
    by_cases h : a = k <;> by_cases hj : a = j
    · subst h; subst hj; simp [lookup]
    · simp only [h, if_true]
      rw [h] at hj
      simp only [lookup, hj, if_false]
      exact ih
    · subst hj; simp [lookup, h]
    · simp only [h, if_false, lookup, hj]
      exact ih

/-! ## The operations -/

/-- The table without bindings. -/
def empty : Table α := ⟨[], by simp⟩

/-- The value bound to `k`. -/
def find? (t : Table α) (k : Text) : Option α := lookup k t.entries

/-- The keys in order. -/
def keys (t : Table α) : List Text := t.entries.map Prod.fst

/-- The values in the order of their keys. -/
def values (t : Table α) : List α := t.entries.map Prod.snd

/-- How many keys are bound. -/
def size (t : Table α) : Nat := t.entries.length

/-- Whether `k` is bound. -/
def contains (t : Table α) (k : Text) : Bool := (t.find? k).isSome

/-- Binds `k` to `v`; a key that is already bound keeps its place. -/
def insert (t : Table α) (k : Text) (v : α) : Table α where
  entries := put k v t.entries
  nodup := by
    rw [keys_put]
    split
    · exact t.nodup
    · next h =>
      refine List.nodup_append.2 ⟨t.nodup, by simp, fun a ha b hb eq => ?_⟩
      obtain rfl := List.mem_singleton.1 hb
      exact h (eq ▸ ha)

/-- Removes the bindings whose key fails `p`. -/
def keepKeys (t : Table α) (p : Text → Bool) : Table α where
  entries := t.entries.filter fun e => p e.1
  nodup := t.nodup.sublist ((List.filter_sublist).map _)

/-- Removes the binding of `k`. -/
def erase (t : Table α) (k : Text) : Table α := t.keepKeys (· ≠ k)

/-- Changes the value bound to `k`, if any. -/
def adjust (t : Table α) (k : Text) (f : α → α) : Table α where
  entries := change k f t.entries
  nodup := by rw [keys_change]; exact t.nodup

/-- Binds the given keys one after the other. -/
def ofList (es : List (Text × α)) : Table α := es.foldl (fun t e => t.insert e.1 e.2) empty

/-! ## The two views -/

theorem find?_eq_some_iff {t : Table α} {k : Text} {v : α} :
    t.find? k = some v ↔ (k, v) ∈ t.entries :=
  ⟨mem_of_lookup, lookup_of_mem t.nodup⟩

theorem find?_eq_none_iff {t : Table α} {k : Text} : t.find? k = none ↔ k ∉ t.keys :=
  lookup_eq_none_iff

theorem find?_insert (t : Table α) (k j : Text) (v : α) :
    (t.insert k v).find? j = if j = k then some v else t.find? j :=
  lookup_put k j v t.entries

theorem find?_erase (t : Table α) (k j : Text) :
    (t.erase k).find? j = if j = k then none else t.find? j := by
  refine (lookup_filter (· ≠ k) j t.entries).trans ?_
  by_cases h : j = k <;> simp [h, find?]

theorem find?_adjust (t : Table α) (k j : Text) (f : α → α) :
    (t.adjust k f).find? j = (t.find? j).map fun v => if j = k then f v else v :=
  lookup_change k j f t.entries

theorem keys_insert (t : Table α) (k : Text) (v : α) :
    (t.insert k v).keys = if k ∈ t.keys then t.keys else t.keys ++ [k] :=
  keys_put k v t.entries

end Table

end StyleBuild
