import Mathlib.Logic.Function.Iterate
import StyleBuild.Proofs.Module.Spelling

/-!
# Relative specifiers as walks

A relative specifier is a run of markers and a rest.  It is read one marker at a time, and every
reading takes an extension off and rewrites what is left, but in the end it is a walk: the markers
go up from a directory, and the rest is looked for where they end (`settle_walk`).  The walk is one
induction on the markers.  It rests on the fact that an extension belongs to the last segment, so
taking it off goes past the markers (`withoutExtension_textOf_append`) and past the directory
(`withoutExtension_within`).

What `settle_walk` adds to the walk is how often an extension is taken off: once for every reading,
and `../` is read twice.  So the walk is the plain one, `destination`, when the specifier has at
most one extension (`resolveImport_eq_destination`).
-/

namespace StyleBuild

namespace Specifier

/-! ## Runs of markers -/

/-- A step of a walk. -/
inductive Marker
  | here
  | up
  deriving DecidableEq, Repr

namespace Marker

def text : Marker → Text
  | here => hereMarker
  | up => upMarker

/-- How many directories a marker goes up. -/
def ups : Marker → ℕ
  | here => 0
  | up => 1

end Marker

/-- The markers as they are written. -/
def textOf (markers : List Marker) : Text := markers.flatMap Marker.text

/-- How often a run of markers is read until it is gone: each marker once, and `../` once more, since
it becomes `./` first. -/
def readings (markers : List Marker) : ℕ := markers.length + markers.count .up

/-- The longest run of markers in front of a text, and what follows it. -/
def run : Text → List Marker × Text
  | '.' :: '/' :: rest => (.here :: (run rest).1, (run rest).2)
  | '.' :: '.' :: '/' :: rest => (.up :: (run rest).1, (run rest).2)
  | rest => ([], rest)

/-- Whether a text begins with a marker. -/
def IsRelative (p : Text) : Prop := ∃ (m : Marker) (r : Text), p = m.text ++ r

lemma textOf_cons (m : Marker) (markers : List Marker) :
    textOf (m :: markers) = m.text ++ textOf markers := List.flatMap_cons

lemma count_up_cons (m : Marker) (markers : List Marker) :
    (m :: markers).count .up = markers.count .up + m.ups := by
  cases m with
  | here => exact List.count_cons_of_ne (by decide)
  | up => exact List.count_cons_self

lemma readings_cons (m : Marker) (markers : List Marker) :
    readings (m :: markers) = readings markers + (m.ups + 1) := by
  rw [readings, readings, count_up_cons, List.length_cons]
  omega

/-- A run and what follows it are the text. -/
lemma textOf_run_append (p : Text) : textOf (run p).1 ++ (run p).2 = p := by
  fun_induction run p with
  | case1 rest ih => rw [textOf_cons, List.append_assoc, ih]; rfl
  | case2 rest ih => rw [textOf_cons, List.append_assoc, ih]; rfl
  | case3 rest => rfl

/-- No marker follows the run. -/
lemma not_isRelative_run_snd (p : Text) : ¬ IsRelative (run p).2 := by
  fun_induction run p with
  | case1 rest ih => exact ih
  | case2 rest ih => exact ih
  | case3 rest hhere hup =>
    rintro ⟨m, r, rfl⟩
    cases m with
    | here => exact hhere r rfl
    | up => exact hup r rfl

lemma run_fst_eq_nil_iff {p : Text} : (run p).1 = [] ↔ ¬ IsRelative p := by
  constructor
  · intro h
    have hp := textOf_run_append p
    rw [h] at hp
    rw [← hp]
    exact not_isRelative_run_snd p
  · intro h
    by_contra hne
    obtain ⟨m, markers, hm⟩ := List.exists_cons_of_ne_nil hne
    refine h ⟨m, textOf markers ++ (run p).2, ?_⟩
    rw [← List.append_assoc, ← textOf_cons, ← hm, textOf_run_append]

/-! ## Extensions -/

lemma withoutExtension_marker_append (m : Marker) (p : Text) :
    Path.withoutExtension (m.text ++ p) = m.text ++ Path.withoutExtension p := by
  cases m with
  | here => exact Path.withoutExtension_append_separator ['.'] p
  | up => exact Path.withoutExtension_append_separator ['.', '.'] p

/-- **Markers are not part of the extension.** -/
theorem withoutExtension_textOf_append (markers : List Marker) (p : Text) :
    Path.withoutExtension (textOf markers ++ p) = textOf markers ++ Path.withoutExtension p := by
  induction markers with
  | nil => rfl
  | cons m markers ih =>
    rw [textOf_cons, List.append_assoc, withoutExtension_marker_append, ih, List.append_assoc]

lemma iterate_withoutExtension_textOf_append (n : ℕ) (markers : List Marker) (p : Text) :
    Path.withoutExtension^[n] (textOf markers ++ p) =
      textOf markers ++ Path.withoutExtension^[n] p := by
  induction n generalizing p with
  | zero => rfl
  | succ n ih =>
    rw [Function.iterate_succ_apply, Function.iterate_succ_apply, withoutExtension_textOf_append, ih]

/-- **A directory is not part of the extension.** -/
theorem withoutExtension_within (directory p : Text) :
    Path.withoutExtension (within directory p) = within directory (Path.withoutExtension p) := by
  unfold within Path.join
  rw [Path.head?_withoutExtension_eq]
  by_cases hdirectory : directory = []
  · rw [if_pos hdirectory, if_pos hdirectory]
  · rw [if_neg hdirectory, if_neg hdirectory]
    split_ifs with habsolute hlast
    · rfl
    · obtain ⟨d, rfl⟩ := List.getLast?_eq_some_iff.1 hlast
      rw [List.append_assoc, List.append_assoc]
      exact Path.withoutExtension_append_separator d p
    · exact Path.withoutExtension_append_separator directory p

/-- What is left of a text without marker has none. -/
lemma not_isRelative_withoutExtension {p : Text} (h : ¬ IsRelative p) :
    ¬ IsRelative (Path.withoutExtension p) := by
  rintro ⟨m, r, hr⟩
  obtain ⟨e, he⟩ := Path.exists_append_withoutExtension p
  refine h ⟨m, r ++ e, ?_⟩
  rw [he, hr, List.append_assoc]

lemma not_isRelative_iterate {p : Text} (h : ¬ IsRelative p) (n : ℕ) :
    ¬ IsRelative (Path.withoutExtension^[n] p) := by
  induction n generalizing p with
  | zero => exact h
  | succ n ih => exact ih (not_isRelative_withoutExtension h)

/-! ## One reading -/

/-- Every marker becomes `./`; `../` does so in a reading of its own, and goes up. -/
lemma settle_marker_append (m : Marker) (p directory : Text) :
    settle true (m.text ++ p) directory =
      settle true (hereMarker ++ Path.withoutExtension^[m.ups] p) (parent^[m.ups] directory) := by
  cases m with
  | here => rfl
  | up =>
    refine settle_of_onward ?_
    rw [step, withoutExtension_marker_append]
    rfl

lemma step_here_append (p directory : Text) :
    step true (hereMarker ++ p) directory = stepHere (Path.withoutExtension p) directory := by
  have hpath : Path.withoutExtension (hereMarker ++ p) = hereMarker ++ Path.withoutExtension p :=
    withoutExtension_marker_append .here p
  rw [step, hpath]
  rfl

lemma beginsWith_eq_true_iff {p : Text} :
    (Text.beginsWith hereMarker p || Text.beginsWith upMarker p) = true ↔ IsRelative p := by
  simp only [Text.beginsWith, Bool.or_eq_true, Option.isSome_iff_exists, Text.after?_eq_some_iff]
  constructor
  · rintro (⟨r, hr⟩ | ⟨r, hr⟩)
    · exact ⟨.here, r, hr⟩
    · exact ⟨.up, r, hr⟩
  · rintro ⟨m, r, hr⟩
    cases m with
    | here => exact .inl ⟨r, hr⟩
    | up => exact .inr ⟨r, hr⟩

/-- A `./` in front of another marker is dropped. -/
lemma settle_here_marker (m : Marker) (p directory : Text) :
    settle true (hereMarker ++ (m.text ++ p)) directory =
      settle true (m.text ++ Path.withoutExtension p) directory := by
  refine settle_of_onward ?_
  rw [step_here_append, withoutExtension_marker_append, stepHere, if_pos]
  exact beginsWith_eq_true_iff.2 ⟨m, _, rfl⟩

/-- The last `./` is where the rest is put into the directory. -/
lemma settle_here_last {p : Text} (h : ¬ IsRelative p) (directory : Text) :
    settle true (hereMarker ++ p) directory = Path.separator ::
      within directory (Path.withoutExtension (Path.withoutExtension p)) := by
  have hstep : step true (hereMarker ++ p) directory =
      .onward (Path.separator :: within directory (Path.withoutExtension p)) directory := by
    rw [step_here_append, stepHere, if_neg]
    rw [beginsWith_eq_true_iff]
    exact not_isRelative_withoutExtension h
  rw [settle_of_onward hstep, settle_separator_cons, withoutExtension_within]

/-! ## All readings -/

/-- The walk after a first `./`.  The induction is on the markers that follow it: each of them comes
back to a `./`, in the directory that it goes to. -/
lemma settle_here_walk (markers : List Marker) {r : Text} (h : ¬ IsRelative r) (directory : Text) :
    settle true (hereMarker ++ (textOf markers ++ r)) directory = Path.separator ::
      within (parent^[markers.count .up] directory)
        (Path.withoutExtension^[readings markers + 2] r) := by
  induction markers generalizing r directory with
  | nil => exact settle_here_last h directory
  | cons m markers ih =>
    have hreadings : readings (m :: markers) + 2 = readings markers + 2 + (m.ups + 1) := by
      rw [readings_cons]
      omega
    calc settle true (hereMarker ++ (textOf (m :: markers) ++ r)) directory
        = settle true (m.text ++ Path.withoutExtension (textOf markers ++ r)) directory := by
          rw [textOf_cons, List.append_assoc, settle_here_marker]
      _ = settle true (hereMarker ++ (textOf markers ++ Path.withoutExtension^[m.ups + 1] r))
            (parent^[m.ups] directory) := by
          rw [settle_marker_append, ← Function.iterate_succ_apply,
            iterate_withoutExtension_textOf_append]
      _ = Path.separator :: within (parent^[markers.count .up] (parent^[m.ups] directory))
            (Path.withoutExtension^[readings markers + 2]
              (Path.withoutExtension^[m.ups + 1] r)) :=
          ih (not_isRelative_iterate h _) _
      _ = Path.separator :: within (parent^[(m :: markers).count .up] directory)
            (Path.withoutExtension^[readings (m :: markers) + 2] r) := by
          rw [← Function.iterate_add_apply, ← Function.iterate_add_apply, count_up_cons, hreadings]

/-- **A relative specifier is a walk.**  Every `../` goes one directory up, the rest is put into the
directory where that ends, and each reading takes an extension off. -/
theorem settle_walk {markers : List Marker} (hne : markers ≠ []) {r : Text} (h : ¬ IsRelative r)
    (directory : Text) :
    settle true (textOf markers ++ r) directory = Path.separator ::
      within (parent^[markers.count .up] directory)
        (Path.withoutExtension^[readings markers + 1] r) := by
  obtain ⟨m, markers, rfl⟩ := List.exists_cons_of_ne_nil hne
  have hreadings : readings (m :: markers) + 1 = readings markers + 2 + m.ups := by
    rw [readings_cons]
    omega
  rw [textOf_cons, List.append_assoc, settle_marker_append,
    iterate_withoutExtension_textOf_append, settle_here_walk _ (not_isRelative_iterate h _),
    ← Function.iterate_add_apply, ← Function.iterate_add_apply, count_up_cons, hreadings]

/-! ## The plain walk -/

/-- The directory that a path is relative to: the module root if `~` is in front. -/
def base (path directory : Text) : Text :=
  if path.head? = some rootMarker then [] else directory

/-- Where a path leads without any reading: the `~` in front and the run of markers after them are
cut off at once, and one walk is made. -/
def destination (relative : Bool) (path directory : Text) : Text :=
  let rest := path.dropWhile (· = rootMarker)
  if relative = true ∧ (run rest).1 ≠ [] then
    within (parent^[(run rest).1.count .up] (base path directory)) (run rest).2
  else rest

lemma destination_root_cons (relative : Bool) (path directory : Text) :
    destination relative (rootMarker :: path) directory = destination relative path [] := by
  have hdrop : (rootMarker :: path).dropWhile (· = rootMarker) =
      path.dropWhile (· = rootMarker) := by simp
  have hbase : base (rootMarker :: path) directory = base path [] := by simp [base]
  simp only [destination, hdrop, hbase]

/-- A path without `~` in front has nothing cut off before the markers. -/
lemma destination_of_head?_ne {relative : Bool} {path directory : Text}
    (h : path.head? ≠ some rootMarker) :
    destination relative path directory =
      if relative = true ∧ (run path).1 ≠ [] then
        within (parent^[(run path).1.count .up] directory) (run path).2
      else path := by
  have hdrop : path.dropWhile (· = rootMarker) = path := by
    cases path with
    | nil => rfl
    | cons c path =>
      have hc : c ≠ rootMarker := fun heq => h (by rw [heq]; rfl)
      simp [hc]
  simp only [destination, hdrop, base, if_neg h]

/-- A path that is not relative is settled. -/
lemma settle_of_not_isRelative {relative : Bool} {path directory : Text}
    (extensionless : Path.withoutExtension path = path) (hroot : path.head? ≠ some rootMarker)
    (h : ¬ (relative = true ∧ IsRelative path)) : settle relative path directory = path := by
  refine settle_of_settled ?_
  rw [step, extensionless]
  cases path with
  | nil => rfl
  | cons c path =>
    have hc : c ≠ rootMarker := fun heq => hroot (by rw [heq]; rfl)
    cases relative with
    | false => simp only [hc, if_false, Bool.false_eq_true]
    | true =>
      have hmarker : ∀ m : Marker, Text.after? m.text (c :: path) = none := by
        intro m
        refine Text.after?_eq_none_iff.2 ?_
        rintro ⟨r, hr⟩
        exact h ⟨rfl, m, r, hr.symm⟩
      have hhere : Text.after? hereMarker (c :: path) = none := hmarker .here
      have hup : Text.after? upMarker (c :: path) = none := hmarker .up
      simp only [hc, if_false, if_true, stepRelative, hup, hhere]

/-- The case of `stripFront_settle` in which no `~` is in front. -/
lemma stripFront_settle_of_head?_ne {relative : Bool} {path : Text}
    (extensionless : Path.withoutExtension path = path) (hroot : path.head? ≠ some rootMarker)
    (directory : Text) :
    Path.stripFront (settle relative path directory) =
      Path.stripFront (destination relative path directory) := by
  rw [destination_of_head?_ne hroot]
  by_cases hwalk : relative = true ∧ IsRelative path
  · obtain ⟨rfl, hrelative⟩ := hwalk
    have hmarkers : (run path).1 ≠ [] := fun hnil => run_fst_eq_nil_iff.1 hnil hrelative
    have hrest : Path.withoutExtension (run path).2 = (run path).2 := by
      rw [← textOf_run_append path, withoutExtension_textOf_append] at extensionless
      exact List.append_cancel_left extensionless
    have hsettle := settle_walk hmarkers (not_isRelative_run_snd path) directory
    rw [textOf_run_append, Function.iterate_fixed hrest] at hsettle
    rw [hsettle, if_pos ⟨rfl, hmarkers⟩, Path.stripFront_cons_separator]
  · have hnot : ¬ (relative = true ∧ (run path).1 ≠ []) := by
      rwa [ne_eq, run_fst_eq_nil_iff, not_not]
    rw [settle_of_not_isRelative extensionless hroot hwalk, if_neg hnot]

/-- The first reading takes an extension off anyway. -/
lemma settle_withoutExtension {relative : Bool} {specifier : Text}
    (once : Path.withoutExtension (Path.withoutExtension specifier) =
      Path.withoutExtension specifier) (directory : Text) :
    settle relative specifier directory =
      settle relative (Path.withoutExtension specifier) directory := by
  have hstep : step relative (Path.withoutExtension specifier) directory =
      step relative specifier directory := by rw [step, step, once]
  cases h : step relative specifier directory with
  | settled path => rw [settle_of_settled h, settle_of_settled (hstep.trans h)]
  | onward rest next => rw [settle_of_onward h, settle_of_onward (hstep.trans h)]

/-- **Without an extension, the readings come to the plain walk.**  The induction is on the `~` in
front; separators in front of the outcome do not matter. -/
theorem stripFront_settle {relative : Bool} {path : Text}
    (extensionless : Path.withoutExtension path = path) (directory : Text) :
    Path.stripFront (settle relative path directory) =
      Path.stripFront (destination relative path directory) := by
  induction path generalizing directory with
  | nil => exact stripFront_settle_of_head?_ne extensionless (by simp) directory
  | cons c path ih =>
    by_cases hc : c = rootMarker
    · subst hc
      have hpath : Path.withoutExtension path = path := by
        rw [Path.withoutExtension_eq_self_iff] at extensionless ⊢
        exact fun hext => extensionless (hext.cons rootMarker)
      rw [settle_root_cons extensionless, destination_root_cons]
      exact ih hpath []
    · exact stripFront_settle_of_head?_ne extensionless (by simpa using hc) directory

/-- The directory only matters to a relative path without `~` in front. -/
lemma destination_congr {relative : Bool} {path : Text}
    (h : path.head? = some rootMarker ∨
      ¬ (relative = true ∧ IsRelative (path.dropWhile (· = rootMarker))))
    (directory other : Text) :
    destination relative path directory = destination relative path other := by
  rcases h with hroot | hrelative
  · simp only [destination, base, if_pos hroot]
  · rw [← not_not (a := IsRelative _), ← run_fst_eq_nil_iff] at hrelative
    simp only [destination, ne_eq, if_neg hrelative]

end Specifier

namespace Settings

/-- **An import is read in one walk**, if its specifier has at most one extension.  The directory
that it is seen from only matters to a relative specifier without `~` in front, and no key begins
with a separator. -/
theorem resolveImport_eq_destination (s : Settings) {specifier : Text}
    (once : Path.withoutExtension (Path.withoutExtension specifier) =
      Path.withoutExtension specifier) (directory : Text) :
    s.resolveImport specifier directory =
        Path.stripFront (s.substitute (Path.stripFront (Specifier.destination s.resolveRelative
          (Path.withoutExtension specifier) directory))) ∧
      ((Path.withoutExtension specifier).head? = some Specifier.rootMarker ∨
          ¬ Specifier.IsRelative
            ((Path.withoutExtension specifier).dropWhile (· = Specifier.rootMarker)) ∨
          s.resolveRelative = false →
        ∀ other, s.resolveImport specifier other = s.resolveImport specifier directory) ∧
      (s.resolveImport specifier directory).head? ≠ some Path.separator := by
  have hresolve : ∀ directory, s.resolveImport specifier directory =
      Path.stripFront (s.substitute (Path.stripFront (Specifier.destination s.resolveRelative
        (Path.withoutExtension specifier) directory))) := by
    intro directory
    rw [resolveImport, Specifier.settle_withoutExtension once, Specifier.stripFront_settle once]
  refine ⟨hresolve directory, fun h other => ?_, Path.head?_stripFront _⟩
  have hplain : (Path.withoutExtension specifier).head? = some Specifier.rootMarker ∨
      ¬ (s.resolveRelative = true ∧ Specifier.IsRelative
        ((Path.withoutExtension specifier).dropWhile (· = Specifier.rootMarker))) := by
    refine h.imp_right fun h hboth => ?_
    rcases h with hrelative | hoff
    · exact hrelative hboth.2
    · rw [hoff] at hboth
      exact Bool.false_ne_true hboth.1
  rw [hresolve, hresolve, Specifier.destination_congr hplain other directory]

end Settings

/-! ### A walk to a dot-file

Two directories up from one whose path is not tidy, to a name that begins with `~` and a file that
begins with a dot; then both tables apply. -/

namespace Walk

def settings : Settings :=
  { Settings.default with
    aliases := ⟨[("a.b".toList, "lib".toList)], by decide⟩
    replace := ⟨[("lib/~x.d".toList, "pkg".toList)], by decide⟩ }

def specifier : Text := ".././../~x.d/.b.scss".toList

def directory : Text := "a.b//c/d/".toList

theorem resolveImport_specifier :
    Path.withoutExtension (Path.withoutExtension specifier) = Path.withoutExtension specifier ∧
      settings.resolveImport specifier directory = "pkg/.b".toList := by
  have once : Path.withoutExtension (Path.withoutExtension specifier) =
      Path.withoutExtension specifier := by decide
  have resolved := (Settings.resolveImport_eq_destination settings once directory).1
  exact ⟨once, resolved.trans (by decide)⟩

end Walk

end StyleBuild
