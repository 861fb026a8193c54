import StyleBuild.Module.Registry
import StyleBuild.Module.Specifier
import StyleBuild.Proofs.Path.Directory
import StyleBuild.Proofs.Table

/-!
# What a registry holds

A registry that could be built is exactly the table of its targets by their keys, in the order of
the targets (`Registry.build_eq_ok_iff`): nothing is shadowed and nothing is left out.  So two
targets of a build with one key are the same target (`Registry.eq_of_moduleKey_eq`), and a registry
can be built whenever the keys are different (`Registry.exists_build_iff`).

Otherwise it is refused at the first target whose key is taken, and the refusal names that key with
the two targets that have it (`Registry.build_eq_error_iff`).

No key begins with a separator (`Settings.head?_moduleKey`), which is what tells a key from the name
of an entry document.
-/

namespace StyleBuild

namespace Settings

lemma head?_modulePath (s : Settings) (p : Text) :
    (s.modulePath p).head? ≠ some Path.separator :=
  Path.head?_stripFront _

/-- **No key begins with a separator.** -/
theorem head?_moduleKey (s : Settings) (p : Text) :
    (s.moduleKey p).head? ≠ some Path.separator := by
  obtain ⟨r, hr⟩ := Path.exists_append_withoutExtension (s.modulePath p)
  have hpath := s.head?_modulePath p
  rw [hr] at hpath
  intro hhead
  rw [moduleKey] at hhead
  cases hkey : Path.withoutExtension (s.modulePath p) with
  | nil => rw [hkey] at hhead; cases hhead
  | cons c k => rw [hkey] at hpath hhead; exact hpath hhead

/-- The key that an import names begins with none, either. -/
lemma head?_resolveImport (s : Settings) (specifier directory : Text) :
    (s.resolveImport specifier directory).head? ≠ some Path.separator :=
  Path.head?_stripFront _

lemma modulePath_ne_nil {s : Settings} {p : Text} (h : s.moduleKey p ≠ []) :
    s.modulePath p ≠ [] := by
  intro hnil
  exact h (Path.withoutExtension_eq_nil_iff.2 hnil)

/-- A target with its key. -/
def keyed (s : Settings) (t : Target) : Text × Target := (s.moduleKey t.path, t)

/-- The keys of targets in their order. -/
def moduleKeys (s : Settings) (ts : List Target) : List Text := ts.map fun t => s.moduleKey t.path

lemma map_fst_keyed (s : Settings) (ts : List Target) :
    (ts.map s.keyed).map Prod.fst = s.moduleKeys ts := by
  rw [List.map_map]
  rfl

end Settings

namespace Registry

variable {s : Settings} {ts : List Target} {r : Registry}

/-- **Adding targets appends them with their keys.** -/
theorem addAll_eq_ok_iff {r' : Registry} :
    addAll s r ts = .ok r' ↔ r'.entries = r.entries ++ ts.map s.keyed := by
  induction ts generalizing r with
  | nil =>
    rw [addAll, List.map_nil, List.append_nil]
    exact ⟨fun h => congrArg _ (Except.ok.inj h).symm, fun h => congrArg _ (Table.ext h).symm⟩
  | cons t ts ih =>
    simp only [addAll]
    split
    · next taken htaken =>
      -- A key that is taken cannot be the key of a later entry.
      refine iff_of_false nofun fun hentries => ?_
      have hfree : s.moduleKey t.path ∉ r.keys := Table.notMem_keys_of_entries hentries
      rw [Table.find?_eq_none_iff.2 hfree] at htaken
      cases htaken
    · next hfree =>
      rw [ih, Table.entries_insert_of_notMem (Table.find?_eq_none_iff.1 hfree), List.append_assoc]
      rfl

/-- **A registry is the table of its targets by their keys**, in their order. -/
theorem build_eq_ok_iff : build s ts = .ok r ↔ r.entries = ts.map s.keyed :=
  addAll_eq_ok_iff

lemma keys_of_build (h : build s ts = .ok r) : r.keys = s.moduleKeys ts := by
  rw [Table.keys, build_eq_ok_iff.1 h, Settings.map_fst_keyed]

/-- What is registered under a key. -/
theorem find?_build_iff (h : build s ts = .ok r) {k : Text} {t : Target} :
    r.find? k = some t ↔ t ∈ ts ∧ s.moduleKey t.path = k := by
  rw [Table.find?_eq_some_iff, build_eq_ok_iff.1 h, List.mem_map]
  constructor
  · rintro ⟨u, hu, heq⟩
    obtain ⟨rfl, rfl⟩ := Prod.mk.inj heq
    exact ⟨hu, rfl⟩
  · rintro ⟨ht, rfl⟩
    exact ⟨t, ht, rfl⟩

/-- The key determines the target. -/
lemma eq_of_moduleKey_eq (h : build s ts = .ok r) {t u : Target} (ht : t ∈ ts) (hu : u ∈ ts)
    (hkey : s.moduleKey t.path = s.moduleKey u.path) : t = u := by
  have hfind := (find?_build_iff h).2 ⟨ht, hkey⟩
  rw [(find?_build_iff h).2 ⟨hu, rfl⟩] at hfind
  exact (Option.some.inj hfind).symm

/-- **A registry can be built exactly when the keys are different.** -/
theorem exists_build_iff :
    (∃ r, build s ts = .ok r) ↔ (ts.map fun t => s.moduleKey t.path).Nodup := by
  constructor
  · rintro ⟨r, h⟩
    change (s.moduleKeys ts).Nodup
    rw [← keys_of_build h]
    exact r.nodup
  · intro h
    rw [← Settings.moduleKeys, ← Settings.map_fst_keyed] at h
    exact ⟨⟨ts.map s.keyed, h⟩, build_eq_ok_iff.2 rfl⟩

/-! ## Collisions -/

/-- `second` is the first target whose key an earlier one has, and `first` is the only earlier one
that has it. -/
def FirstCollision (s : Settings) (ts : List Target) (first second : Target) : Prop :=
  ∃ earlier later, ts = earlier ++ second :: later ∧ (s.moduleKeys earlier).Nodup ∧
    earlier.filter (fun t => s.moduleKey t.path = s.moduleKey second.path) = [first]

/-- Targets are added one after the other. -/
lemma addAll_append {r' : Registry} {us : List Target} (h : addAll s r ts = .ok r') :
    addAll s r (ts ++ us) = addAll s r' us := by
  induction ts generalizing r with
  | nil =>
    obtain rfl := Except.ok.inj h
    rfl
  | cons t ts ih =>
    simp only [addAll, List.cons_append] at h ⊢
    split at h
    · cases h
    · exact ih h

/-- What is refused is the first collision. -/
lemma FirstCollision.build_eq {first second : Target} (h : FirstCollision s ts first second) :
    build s ts = .error (.collision (s.moduleKey second.path) first.path second.path) := by
  obtain ⟨earlier, later, rfl, hnodup, hfilter⟩ := h
  obtain ⟨r, hr⟩ := exists_build_iff.2 hnodup
  obtain ⟨hfirst, hkey⟩ := List.mem_filter.1 (hfilter ▸ List.mem_singleton_self first)
  have htaken := (find?_build_iff hr).2 ⟨hfirst, of_decide_eq_true hkey⟩
  rw [build, addAll_append hr]
  simp only [addAll, htaken]

/-- Among targets with different keys, a target is the only one with its key. -/
lemma filter_moduleKey_eq (h : (s.moduleKeys ts).Nodup) {t : Target} (ht : t ∈ ts) :
    ts.filter (fun u => s.moduleKey u.path = s.moduleKey t.path) = [t] := by
  induction ts with
  | nil => cases ht
  | cons u us ih =>
    rw [Settings.moduleKeys, List.map_cons, List.nodup_cons, List.mem_map] at h
    rcases List.mem_cons.1 ht with rfl | hmem
    · have hothers : us.filter (fun u => s.moduleKey u.path = s.moduleKey t.path) = [] := by
        rw [List.filter_eq_nil_iff]
        intro u hu hkey
        exact h.1 ⟨u, hu, of_decide_eq_true hkey⟩
      rw [List.filter_cons_of_pos (by simp), hothers]
    · have hkey : s.moduleKey u.path ≠ s.moduleKey t.path := fun hkey => h.1 ⟨t, hmem, hkey.symm⟩
      rw [List.filter_cons_of_neg (by simp [hkey])]
      exact ih h.2 hmem

/-- Where two keys are the same, there is a first collision. -/
lemma exists_firstCollision (h : ¬ (s.moduleKeys ts).Nodup) :
    ∃ first second, FirstCollision s ts first second := by
  obtain ⟨earlier, second, later, rfl, hnodup, hrepeated⟩ :=
    exists_first_refused (fun ts => (s.moduleKeys ts).Nodup) List.nodup_nil h
  have hmem : s.moduleKey second.path ∈ s.moduleKeys earlier := by
    by_contra hnew
    refine hrepeated ?_
    rw [Settings.moduleKeys, List.map_append, List.map_singleton]
    exact (List.perm_append_singleton _ _).nodup_iff.2 (List.nodup_cons.2 ⟨hnew, hnodup⟩)
  obtain ⟨first, hfirst, hkey⟩ := List.mem_map.1 hmem
  refine ⟨first, second, earlier, later, rfl, hnodup, ?_⟩
  rw [← hkey]
  exact filter_moduleKey_eq hnodup hfirst

/-- **A registry is refused for its first collision.** -/
theorem build_eq_error_iff {p : Problem} :
    build s ts = .error p ↔ ∃ first second, FirstCollision s ts first second ∧
      p = .collision (s.moduleKey second.path) first.path second.path := by
  constructor
  · intro h
    have hrepeated : ¬ (s.moduleKeys ts).Nodup := by
      intro hnodup
      obtain ⟨r, hr⟩ := exists_build_iff.2 hnodup
      rw [hr] at h
      cases h
    obtain ⟨first, second, hfirst⟩ := exists_firstCollision hrepeated
    rw [hfirst.build_eq] at h
    exact ⟨first, second, hfirst, (Except.error.inj h).symm⟩
  · rintro ⟨first, second, hfirst, rfl⟩
    exact hfirst.build_eq

/-- Building a registry fails only where two targets have the same key. -/
lemma exists_collision {p : Problem} (h : build s ts = .error p) :
    ∃ key first second, p = .collision key first second := by
  obtain ⟨first, second, -, rfl⟩ := build_eq_error_iff.1 h
  exact ⟨_, _, _, rfl⟩

/-- **A registry has each target under its key, or is refused for its first collision.**  Neither
the keys in it nor the keys that imports name begin with a separator. -/
theorem build_exact (s : Settings) (ts : List Target) :
    ((∃ r, build s ts = .ok r) ↔ (s.moduleKeys ts).Nodup) ∧
    (∀ r, build s ts = .ok r →
      r.keys = s.moduleKeys ts ∧ (∀ t ∈ ts, r.find? (s.moduleKey t.path) = some t) ∧
        ∀ key ∈ r.keys, key.head? ≠ some Path.separator) ∧
    (¬ (s.moduleKeys ts).Nodup → ∃ first second, FirstCollision s ts first second ∧
      build s ts = .error (.collision (s.moduleKey second.path) first.path second.path)) ∧
    ∀ specifier directory, (s.resolveImport specifier directory).head? ≠ some Path.separator := by
  refine ⟨exists_build_iff, fun r hr => ⟨keys_of_build hr, fun t ht => ?_, fun key hkey => ?_⟩,
    fun h => ?_, s.head?_resolveImport⟩
  · exact (find?_build_iff hr).2 ⟨ht, rfl⟩
  · rw [keys_of_build hr] at hkey
    obtain ⟨t, -, rfl⟩ := List.mem_map.1 hkey
    exact s.head?_moduleKey t.path
  · obtain ⟨first, second, hfirst⟩ := exists_firstCollision h
    exact ⟨first, second, hfirst, hfirst.build_eq⟩

end Registry

/-! ### Two spellings of one module

Below the base `src`, a name in either syntax and with separators in front is the same module. -/

namespace Collision

def settings : Settings := { Settings.default with moduleBase := "src".toList }

def target (path : String) : Target := .fresh path.toList [] false

/-- The third target has the key of the first one, and the fourth that of the second. -/
def targets : List Target :=
  [target "src/a.scss", target "b.scss", target "//src//a.sass", target "src/b.sass"]

/-- The first two targets are registered, and the third one is the first that cannot be. -/
theorem build_exact_spellings :
    (∃ r, Registry.build settings (targets.take 2) = .ok r ∧ r.keys = ["a".toList, "b".toList]) ∧
      (∃ first second, Registry.FirstCollision settings targets first second ∧
        Registry.build settings targets =
          .error (.collision (settings.moduleKey second.path) first.path second.path)) ∧
      Registry.build settings targets =
        .error (.collision "a".toList "src/a.scss".toList "//src//a.sass".toList) := by
  obtain ⟨hsome, hkeys, -⟩ := Registry.build_exact settings (targets.take 2)
  obtain ⟨r, hr⟩ := hsome.2 (by decide +kernel)
  have hrefused := (Registry.build_exact settings targets).2.2.1 (by decide +kernel)
  refine ⟨⟨r, hr, ?_⟩, hrefused, rfl⟩
  rw [(hkeys r hr).1]
  decide +kernel

end Collision

end StyleBuild
