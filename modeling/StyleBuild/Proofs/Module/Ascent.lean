import StyleBuild.Proofs.Module.Walk
import StyleBuild.Proofs.Settings.Accepted

/-!
# Going up twice

Seen from a directory `d/c`, the specifier `../../x` should mean what `../x` means seen from `d`.
Both walks come to the same directory, but the first one is two readings longer, and every reading
takes an extension off `x`.  So what comes out differs by two extensions (`exists_settle_up`).

`ascentsAgree_iff` says exactly when that does not show: when the shorter walk has already taken off
all extensions that `x` has.  `x` may go on with markers of its own, and then both walks are longer
by the same number of readings.  `not_forall_ascentsAgree` gives a name with four extensions, for
which the shorter walk is not long enough.
-/

namespace StyleBuild

namespace Path

/-- Separators in front neither make an extension nor hide one. -/
lemma withoutExtension_stripFront_eq_self_iff {p : Text} :
    withoutExtension (stripFront p) = stripFront p ↔ withoutExtension p = p := by
  constructor
  · intro h
    obtain ⟨k, hk⟩ := exists_replicate_append_stripFront p
    rw [hk, withoutExtension_replicate_append, h]
  · intro h
    rw [withoutExtension_stripFront, h]

end Path

namespace Specifier

/-- A path is found again in the directory that it was put into. -/
lemma within_injective {directory a b : Text} (hhead : a.head? = b.head?)
    (h : within directory a = within directory b) : a = b := by
  unfold within Path.join at h
  rw [hhead] at h
  by_cases hdirectory : directory = []
  · rwa [if_pos hdirectory, if_pos hdirectory] at h
  · rw [if_neg hdirectory, if_neg hdirectory] at h
    split_ifs at h with habsolute hlast
    · exact h
    · exact List.append_cancel_left h
    · exact List.cons_injective (List.append_cancel_left h)

lemma withoutExtension_within_eq_self_iff {directory p : Text} :
    Path.withoutExtension (within directory p) = within directory p ↔
      Path.withoutExtension p = p := by
  rw [withoutExtension_within]
  exact ⟨within_injective (Path.head?_withoutExtension_eq p), congrArg _⟩

lemma withoutExtension_textOf_append_eq_self_iff {markers : List Marker} {p : Text} :
    Path.withoutExtension (textOf markers ++ p) = textOf markers ++ p ↔
      Path.withoutExtension p = p := by
  rw [withoutExtension_textOf_append]
  exact ⟨List.append_cancel_left, congrArg _⟩

/-- The directory above one that was just entered. -/
lemma parent_append {d c : Text} (hd : d ≠ []) (hlast : d.getLast? ≠ some Path.separator)
    (hc : c ≠ []) (hsep : Path.separator ∉ c) : parent (d ++ Path.separator :: c) = d := by
  have hend : (d ++ Path.separator :: c).getLast? ≠ some Path.separator := by
    rw [List.getLast?_append_of_ne_nil _ (List.cons_ne_nil _ c), List.getLast?_cons_of_ne_nil hc]
    exact fun hmem => hsep (List.mem_of_getLast? hmem)
  have hback : Path.stripBack d = d := Path.stripBack_of_getLast?_ne hlast
  rw [parent, Path.stripBack_of_getLast?_ne hend,
    Path.directory_append_separator hsep (by rwa [hback]), hback]

/-- The markers in front of a text do not hide its extensions. -/
lemma withoutExtension_iterate_run_iff (n : ℕ) (x : Text) :
    Path.withoutExtension (Path.withoutExtension^[n] (run x).2) =
        Path.withoutExtension^[n] (run x).2 ↔
      ¬ Path.HasExtension (Path.withoutExtension^[n] x) := by
  have hx : Path.withoutExtension^[n] x =
      textOf (run x).1 ++ Path.withoutExtension^[n] (run x).2 := by
    rw [← iterate_withoutExtension_textOf_append, textOf_run_append]
  rw [hx, ← Path.withoutExtension_eq_self_iff, withoutExtension_textOf_append_eq_self_iff]

/-- How often an extension is taken off `x` until `../x` is settled. -/
def ascentReadings (x : Text) : ℕ := readings (run x).1 + 3

/-- The shorter walk. -/
lemma settle_up (d x : Text) :
    settle true (upMarker ++ x) d = Path.separator ::
      within (parent^[(run x).1.count .up + 1] d)
        (Path.withoutExtension^[ascentReadings x] (run x).2) := by
  have hwalk := settle_walk (List.cons_ne_nil Marker.up (run x).1) (not_isRelative_run_snd x) d
  rw [textOf_cons, List.append_assoc, textOf_run_append, readings_cons, List.count_cons_self]
    at hwalk
  exact hwalk

/-- The longer walk. -/
lemma settle_up_up {d c : Text} (hd : d ≠ []) (hlast : d.getLast? ≠ some Path.separator)
    (hc : c ≠ []) (hsep : Path.separator ∉ c) (x : Text) :
    settle true (upMarker ++ (upMarker ++ x)) (d ++ Path.separator :: c) = Path.separator ::
      within (parent^[(run x).1.count .up + 1] d)
        (Path.withoutExtension^[ascentReadings x + 2] (run x).2) := by
  have hwalk := settle_walk (List.cons_ne_nil Marker.up (.up :: (run x).1))
    (not_isRelative_run_snd x) (d ++ Path.separator :: c)
  rw [textOf_cons, textOf_cons, List.append_assoc, List.append_assoc, textOf_run_append,
    readings_cons, readings_cons, List.count_cons_self, List.count_cons_self,
    Function.iterate_succ_apply, parent_append hd hlast hc hsep] at hwalk
  exact hwalk

/-- **The longer walk takes off two extensions more**, and otherwise comes to the same path. -/
theorem exists_settle_up {d c : Text} (hd : d ≠ []) (hlast : d.getLast? ≠ some Path.separator)
    (hc : c ≠ []) (hsep : Path.separator ∉ c) (x : Text) :
    ∃ p, settle true (upMarker ++ x) d = Path.separator :: p ∧
      settle true (upMarker ++ (upMarker ++ x)) (d ++ Path.separator :: c) =
        Path.separator :: Path.withoutExtension (Path.withoutExtension p) ∧
      (Path.withoutExtension p = p ↔
        ¬ Path.HasExtension (Path.withoutExtension^[ascentReadings x] x)) := by
  refine ⟨_, settle_up d x, ?_, ?_⟩
  · rw [settle_up_up hd hlast hc hsep, withoutExtension_within, withoutExtension_within,
      Function.iterate_succ_apply' Path.withoutExtension,
      Function.iterate_succ_apply' Path.withoutExtension]
  · rw [withoutExtension_within_eq_self_iff, withoutExtension_iterate_run_iff]

end Specifier

namespace Settings

/-- Seen from `d/c`, going up twice comes to what going up once does from `d`. -/
def AscentsAgree (s : Settings) (d c x : Text) : Prop :=
  s.resolveImport (Specifier.upMarker ++ (Specifier.upMarker ++ x)) (d ++ Path.separator :: c) =
    s.resolveImport (Specifier.upMarker ++ x) d

/-- **Going up twice is going up once from the parent exactly when the shorter walk leaves no
extension.**  This is so for all settings together, and also for any that have no tables; a table
can make two different paths the same key. -/
theorem ascentsAgree_iff {d c : Text} (hd : d ≠ []) (hlast : d.getLast? ≠ some Path.separator)
    (hc : c ≠ []) (hsep : Path.separator ∉ c) (x : Text) :
    ((∀ s : Settings, s.resolveRelative = true → s.AscentsAgree d c x) ↔
        ¬ Path.HasExtension (Path.withoutExtension^[Specifier.ascentReadings x] x)) ∧
      ∀ s : Settings, s.resolveRelative = true → s.aliases = .empty → s.replace = .empty →
        (s.AscentsAgree d c x ↔
          ¬ Path.HasExtension (Path.withoutExtension^[Specifier.ascentReadings x] x)) := by
  obtain ⟨p, honce, htwice, hiff⟩ := Specifier.exists_settle_up hd hlast hc hsep x
  have hagree : ∀ s : Settings, s.resolveRelative = true →
      ¬ Path.HasExtension (Path.withoutExtension^[Specifier.ascentReadings x] x) →
        s.AscentsAgree d c x := by
    intro s relative hnone
    rw [← hiff] at hnone
    rw [AscentsAgree, resolveImport, resolveImport, relative, honce, htwice, hnone, hnone]
  have hplain : ∀ s : Settings, s.resolveRelative = true → s.aliases = .empty →
      s.replace = .empty → s.AscentsAgree d c x →
        ¬ Path.HasExtension (Path.withoutExtension^[Specifier.ascentReadings x] x) := by
    intro s relative aliases replace h
    rw [AscentsAgree, resolveImport_of_no_tables aliases replace,
      resolveImport_of_no_tables aliases replace, relative, honce, htwice,
      Path.stripFront_cons_separator, Path.stripFront_cons_separator,
      ← Path.withoutExtension_stripFront, ← Path.withoutExtension_stripFront] at h
    rw [← hiff]
    exact Path.withoutExtension_stripFront_eq_self_iff.1 (Path.withoutExtension_of_twice h)
  refine ⟨⟨fun h => ?_, fun hnone s relative => hagree s relative hnone⟩, ?_⟩
  · exact hplain default rfl rfl rfl (h default rfl)
  · exact fun s relative aliases replace =>
      ⟨hplain s relative aliases replace, hagree s relative⟩

end Settings

/-! ### Names with many extensions

A name with two markers of its own may have as many as six extensions; `Walk.settings` has tables. -/

namespace Ascent

def name : Text := "./../~n.1.2.3.4.5.scss".toList

theorem ascentsAgree_name :
    ¬ Path.HasExtension (Path.withoutExtension^[Specifier.ascentReadings name] name) ∧
      Walk.settings.AscentsAgree "a.b/e/g".toList "h.i".toList name ∧
      Walk.settings.resolveImport (Specifier.upMarker ++ name) "a.b/e/g".toList =
        "lib/~n".toList := by
  have hnone : ¬ Path.HasExtension (Path.withoutExtension^[Specifier.ascentReadings name] name) := by
    decide
  have agree := (Settings.ascentsAgree_iff (d := "a.b/e/g".toList) (c := "h.i".toList) (by decide)
    (by decide) (by decide) (by decide) name).1.2 hnone Walk.settings rfl
  exact ⟨hnone, agree, by decide +kernel⟩

end Ascent

namespace Settings

/-- **The two do not agree in general.**  Seen from `a`, `../x.1.2.3.scss` means `x.1`; seen from
`a/b`, `../../x.1.2.3.scss` means `x`. -/
theorem not_forall_ascentsAgree :
    ¬ ∀ (s : Settings) (d c x : Text), s.Accepted → s.resolveRelative = true → d ≠ [] →
      d.head? ≠ some Path.separator → d.getLast? ≠ some Path.separator → c ≠ [] →
      Path.separator ∉ c → s.AscentsAgree d c x := by
  intro h
  have agree := h default ['a'] ['b'] "x.1.2.3.scss".toList ⟨.scalar .null, rfl⟩ rfl (by decide)
    (by decide) (by decide) (by decide) (by decide)
  have honce : default.resolveImport (Specifier.upMarker ++ "x.1.2.3.scss".toList) ['a'] =
      "x.1".toList := by decide +kernel
  have htwice : default.resolveImport
      (Specifier.upMarker ++ (Specifier.upMarker ++ "x.1.2.3.scss".toList)) "a/b".toList =
        "x".toList := by decide +kernel
  rw [AscentsAgree, honce] at agree
  exact absurd (htwice.symm.trans agree) (by decide)

end Settings

end StyleBuild
