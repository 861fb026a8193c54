import StyleBuild.Proofs.Settings.Tables
import StyleBuild.Proofs.Text.Trim

/-!
# Settings written down and read again

Raw settings may say the same thing in many ways; what they are read as says it in one.
`Settings.Normal` describes it field by field, and `Settings.written` puts it down as raw settings
again, with each field under one of its names.

Two facts, and neither of them needs to know how the settings came about.

* What is read is normal (`Accepted.normal`), since each reader trims and completes what it takes.
* What is normal is read as it stands (`Normal.ofValue_written`), since there is nothing left to
  trim or to complete.

So the accepted settings are the normal ones (`accepted_iff_normal`), and reading them a second time
changes nothing (`Accepted.reread`), in whatever order and under whichever names they are written.
-/

namespace StyleBuild

lemma Path.Trimmed.strip_eq {p : Text} (h : Path.Trimmed p) : Path.strip p = p := by
  rw [Path.strip, Path.stripFront_of_head?_ne h.front, Path.stripBack_of_getLast?_ne h.back]

/-- In a mapping with different keys, what a key is bound to can be found. -/
lemma Value.find?_of_mem {name : Text} {v : Value} {entries : List (Scalar × Value)}
    (nodup : (entries.map Prod.fst).Nodup) (h : (.text name, v) ∈ entries) :
    find? name entries = some v := by
  induction entries with
  | nil => cases h
  | cons e entries ih =>
    obtain ⟨k, w⟩ := e
    rw [List.map_cons, List.nodup_cons] at nodup
    rcases List.mem_cons.1 h with heq | hmem
    · obtain ⟨rfl, rfl⟩ := Prod.mk.inj heq
      rw [find?, if_pos rfl]
    · have hk : k ≠ .text name := by
        rintro rfl
        exact nodup.1 (List.mem_map.2 ⟨_, hmem, rfl⟩)
      rw [find?, if_neg hk, ih nodup.2 hmem]

lemma Value.find?_of_notMem {name : Text} {entries : List (Scalar × Value)}
    (h : .text name ∉ entries.map Prod.fst) : find? name entries = none := by
  induction entries with
  | nil => rfl
  | cons e entries ih =>
    rw [List.map_cons, List.mem_cons, not_or] at h
    rw [find?, if_neg (Ne.symm h.1), ih h.2]

namespace Settings

/-! ## What is read -/

/-- What is left of a suffix when it is read: something that begins with a dot, without blanks
around it. -/
structure NormalSuffix (t : Text) : Prop where
  dot : t.head? = some '.'
  trimmed : Text.trimBoth CharClass.isBlank t = t

/-- Settings without anything that reading them would change. -/
structure Normal (s : Settings) : Prop where
  moduleBase : Path.Trimmed s.moduleBase
  aliases : ∀ e ∈ s.aliases.entries, TrimmedEntry e
  aliases_nodup : s.aliases.keys.Nodup
  replace : ∀ e ∈ s.replace.entries, TrimmedEntry e
  replace_nodup : s.replace.keys.Nodup
  rename : ∀ suffix ∈ s.rename, NormalSuffix suffix
  outputStyle : s.outputStyle ∈ OutputStyle.all
  workers : 1 ≤ s.workers

lemma trimmed_of_readDirectory {place : List Text} {v : Value} {t : Text}
    (h : readDirectory place v = .ok t) : Path.Trimmed t := by
  obtain ⟨p, -, rfl⟩ := Reading.map_eq_ok_iff.1 h
  exact Path.trimmed_strip p

/-- A dot in front of a trimmed text leaves it trimmed. -/
lemma normalSuffix_withDot {t : Text} (hne : t ≠ []) (h : Text.Trimmed CharClass.isBlank t) :
    NormalSuffix (withDot t) := by
  unfold withDot
  split
  · next hdot => exact ⟨hdot, h.trimBoth_eq⟩
  · refine ⟨rfl, Text.Trimmed.trimBoth_eq ⟨fun c hc => ?_, fun c hc => h.back c ?_⟩⟩
    · obtain rfl : '.' = c := Option.some.inj hc
      decide
    · rwa [List.getLast?_cons_of_ne_nil hne] at hc

lemma normalSuffix_of_readRename {place : List Text} {v : Value} {r : Option Text}
    (h : readRename place v = .ok r) : ∀ suffix ∈ r, NormalSuffix suffix := by
  unfold readRename at h
  split at h
  · obtain rfl := Reading.ok.inj h
    intro suffix hsuffix
    cases hsuffix
  · obtain rfl := Reading.ok.inj h
    intro suffix hsuffix
    obtain rfl : usualSuffix = suffix := Option.some.inj hsuffix
    exact ⟨rfl, by decide⟩
  · dsimp only at h
    split at h
    · cases h
    · next t hne =>
      obtain rfl := Reading.ok.inj h
      intro suffix hsuffix
      obtain rfl := Option.some.inj hsuffix
      exact normalSuffix_withDot hne (Text.trimmed_trimBoth _ t)
  · cases h

lemma one_le_of_atLeastOne {place : List Text} {i : ℤ} {n : ℕ} (h : atLeastOne place i = .ok n) :
    1 ≤ n := by
  unfold atLeastOne at h
  split at h
  · obtain rfl := Reading.ok.inj h
    omega
  · cases h

lemma one_le_of_readNumeral {place : List Text} {t : Text} {n : ℕ}
    (h : readNumeral place t = .ok n) : 1 ≤ n := by
  unfold readNumeral at h
  split at h
  · exact one_le_of_atLeastOne h
  · cases h
  · cases h

/-- Every way to give a number of workers ends in the same test. -/
lemma one_le_of_readWorkers {place : List Text} {v : Value} {n : ℕ}
    (h : readWorkers place v = .ok n) : 1 ≤ n := by
  unfold readWorkers at h
  split at h
  · exact one_le_of_atLeastOne h
  · exact one_le_of_atLeastOne h
  · cases h
  · cases h
  · split at h
    · split at h
      · exact one_le_of_atLeastOne h
      · cases h
    · cases h
  · exact one_le_of_readNumeral h
  · split at h
    · exact one_le_of_readNumeral h
    · cases h
  · cases h

lemma OutputStyle.mem_all (style : OutputStyle) : style ∈ OutputStyle.all := by
  cases style <;> decide

lemma normal_default : default.Normal where
  moduleBase := ⟨nofun, nofun⟩
  aliases := nofun
  aliases_nodup := List.nodup_nil
  replace := nofun
  replace_nodup := List.nodup_nil
  rename := nofun
  outputStyle := OutputStyle.mem_all _
  workers := Nat.le_refl 1

/-- **What is read is normal.** -/
theorem Accepted.normal {s : Settings} (accepted : s.Accepted) : s.Normal := by
  rcases accepted.eq_default_or_readFields with rfl | ⟨entries, hread⟩
  · exact normal_default
  · obtain ⟨hbase, -, -, -, -, hrename, -, -, hworkers⟩ := readFields_eq_ok_iff.1 hread
    constructor
    · rcases field_eq_ok hbase with heq | ⟨place, v, hv⟩
      · rw [heq]
        exact normal_default.moduleBase
      · exact trimmed_of_readDirectory hv
    · exact fun e he => accepted.trimmed (.inl he)
    · exact s.aliases.nodup
    · exact fun e he => accepted.trimmed (.inr he)
    · exact s.replace.nodup
    · rcases field_eq_ok hrename with heq | ⟨place, v, hv⟩
      · rw [heq]
        exact normal_default.rename
      · exact normalSuffix_of_readRename hv
    · exact OutputStyle.mem_all _
    · rcases field_eq_ok hworkers with heq | ⟨place, v, hv⟩
      · rw [heq]
        exact normal_default.workers
      · exact one_le_of_readWorkers hv

/-! ## What is written -/

/-- Which of the four settings with two names are written under the one with underscores. -/
structure Naming where
  moduleBase : Bool
  resolveRelative : Bool
  candidates : Bool
  outputStyle : Bool

/-- One of two names. -/
def oneOf (underscores : Bool) (camel underscored : Text) : Text :=
  if underscores then underscored else camel

def writtenTable (t : Table Text) : Value :=
  .map (t.entries.map fun e => (.text e.1, .scalar (.text e.2)))

def writtenRename : Option Text → Value
  | none => .scalar .null
  | some suffix => .scalar (.text suffix)

/-- The settings as a raw mapping. -/
def written (s : Settings) (n : Naming) : List (Scalar × Value) := [
  (.text (oneOf n.moduleBase "moduleBase".toList "module_base".toList),
    .scalar (.text s.moduleBase)),
  (.text "alias".toList, writtenTable s.aliases),
  (.text "replace".toList, writtenTable s.replace),
  (.text (oneOf n.resolveRelative "resolveRelativePaths".toList "resolve_relative_paths".toList),
    .scalar (.bool s.resolveRelative)),
  (.text "targets".toList, .list (s.targets.map fun p => .scalar (.text p.source))),
  (.text "rename".toList, writtenRename s.rename),
  (.text (oneOf n.candidates "match".toList "candidate_pattern".toList),
    .scalar (.text s.candidates.source)),
  (.text (oneOf n.outputStyle "outputStyle".toList "output_style".toList),
    .scalar (.text s.outputStyle.name)),
  (.text "workers".toList, .scalar (.int s.workers))]

/-! ## Each field is read as it was written -/

variable (place : List Text)

lemma readDirectory_text {t : Text} (h : Path.Trimmed t) :
    readDirectory place (.scalar (.text t)) = .ok t := by
  change Reading.ok (Path.strip t) = .ok t
  rw [h.strip_eq]

lemma readEntries_text (es : List (Text × Text)) :
    readEntries place (es.map fun e => (.text e.1, .scalar (.text e.2))) = .ok es := by
  induction es with
  | nil => rfl
  | cons e es ih =>
    rw [List.map_cons, readEntries, ih]
    rfl

/-- A table of trimmed entries is read entry for entry. -/
lemma readTable_writtenTable (table : Text) {t : Table Text}
    (h : ∀ e ∈ t.entries, TrimmedEntry e) : readTable table place (writtenTable t) = .ok t := by
  have hstrip : t.entries.map stripEntry = t.entries := by
    refine (List.map_congr_left fun e he => ?_).trans (List.map_id _)
    rw [stripEntry, (h e he).key.strip_eq, (h e he).value.strip_eq]
    rfl
  have hnormalise : normalise t = .ok t := normalise_eq_ok_iff.2
    ⟨hstrip.symm, fun e he => by rw [(h e he).key.strip_eq]; exact (h e he).key_ne_nil⟩
  simp only [readTable, writtenTable, readEntries_text, Reading.andThen, Table.ofList_entries,
    hnormalise]

lemma readPattern_source (p : Pattern) : readPattern place (.scalar (.text p.source)) = .ok p := by
  simp only [readPattern, Pattern.ofText_self]

lemma readTargets_sources (ps : List Pattern) :
    readTargets place (.list (ps.map fun p => .scalar (.text p.source))) = .ok ps := by
  have hfrom : ∀ index, readPatterns place index (ps.map fun p => .scalar (.text p.source)) =
      .ok ps := by
    induction ps with
    | nil => exact fun _ => rfl
    | cons p ps ih =>
      intro index
      rw [List.map_cons, readPatterns, readPattern_source, ih]
      rfl
  exact hfrom 0

lemma readRename_writtenRename {r : Option Text} (h : ∀ suffix ∈ r, NormalSuffix suffix) :
    readRename place (writtenRename r) = .ok r := by
  cases r with
  | none => rfl
  | some suffix =>
    obtain ⟨hdot, htrimmed⟩ := h suffix rfl
    have hne : suffix ≠ [] := by
      rintro rfl
      cases hdot
    simp only [writtenRename, readRename, htrimmed, if_neg hne, withDot, if_pos hdot]

lemma readStyle_name (style : OutputStyle) :
    readStyle place (.scalar (.text style.name)) = .ok style := by
  have hname : OutputStyle.ofName? (LetterCase.lowerAsciiText
      (Text.trimBoth CharClass.isBlank style.name)) = some style := by
    cases style <;> decide
  simp only [readStyle, readText, Reading.andThen, hname]

lemma readWorkers_int {n : ℕ} (h : 1 ≤ n) : readWorkers place (.scalar (.int n)) = .ok n := by
  have hpositive : (1 : ℤ) ≤ n := by exact_mod_cast h
  simp only [readWorkers, atLeastOne, if_pos hpositive, Int.toNat_natCast]

/-! ## All fields -/

section Fields

variable {s : Settings} {n : Naming} {raw : List (Scalar × Value)} {α : Type} {absent : α}
  {read : List Text → Value → Reading α} {name : Text} {names : List Text} {v : Value}

lemma field_of_mem (nodup : (raw.map Prod.fst).Nodup) (h : (.text name, v) ∈ raw) :
    field raw (name :: names) absent read = read [name] v := by
  simp only [field, List.findSome?_cons, Value.find?_of_mem nodup h, Option.map_some]

lemma field_of_notMem (h : .text name ∉ raw.map Prod.fst) :
    field raw (name :: names) absent read = field raw names absent read := by
  simp only [field, List.findSome?_cons, Value.find?_of_notMem h, Option.map_none]

/-- A field with two names is read under the one that is there. -/
lemma field_oneOf {camel underscored : Text} {underscores : Bool}
    (nodup : (raw.map Prod.fst).Nodup) (h : (.text (oneOf underscores camel underscored), v) ∈ raw)
    (hother : underscores = true → .text camel ∉ raw.map Prod.fst) :
    field raw [camel, underscored] absent read = read [oneOf underscores camel underscored] v := by
  cases underscores with
  | false => exact field_of_mem nodup h
  | true =>
    rw [field_of_notMem (hother rfl)]
    exact field_of_mem nodup h

/-- The keys of written settings are different, and no setting is there under both of its names. -/
lemma keys_written (s : Settings) (n : Naming) :
    ((s.written n).map Prod.fst).Nodup ∧
      (n.moduleBase = true → .text "moduleBase".toList ∉ (s.written n).map Prod.fst) ∧
      (n.resolveRelative = true →
        .text "resolveRelativePaths".toList ∉ (s.written n).map Prod.fst) ∧
      (n.candidates = true → .text "match".toList ∉ (s.written n).map Prod.fst) ∧
      (n.outputStyle = true → .text "outputStyle".toList ∉ (s.written n).map Prod.fst) := by
  -- The settings do not matter for the keys, and only four choices of a name do.
  simp only [written, List.map_cons, List.map_nil]
  obtain ⟨a, b, c, d⟩ := n
  revert a b c d
  decide +kernel

/-- **Normal settings are read as they were written.** -/
theorem Normal.ofValue_written (normal : s.Normal) (h : raw.Perm (s.written n)) :
    ofValue (.map raw) = .ok s := by
  have hkeys := h.map Prod.fst
  have hthere : ∀ e ∈ s.written n, e ∈ raw := fun _ => h.mem_iff.2
  -- The order does not matter, since every key is there once.
  obtain ⟨nodup, hbase, hrelative, hcandidates, hstyle⟩ := keys_written s n
  rw [← hkeys.nodup_iff] at nodup
  simp only [← hkeys.mem_iff] at hbase hrelative hcandidates hstyle
  have hread : readFields raw = .ok s := by
    rw [readFields_eq_ok_iff]
    refine ⟨?_, ?_, ?_, ?_, ?_, ?_, ?_, ?_, ?_⟩
    · rw [field_oneOf (v := .scalar (.text s.moduleBase)) nodup
        (hthere _ (by simp [written])) hbase]
      exact readDirectory_text _ normal.moduleBase
    · rw [field_of_mem (v := writtenTable s.aliases) nodup
        (hthere _ (by simp [written]))]
      exact readTable_writtenTable _ _ normal.aliases
    · rw [field_of_mem (v := writtenTable s.replace) nodup
        (hthere _ (by simp [written]))]
      exact readTable_writtenTable _ _ normal.replace
    · rw [field_oneOf (v := .scalar (.bool s.resolveRelative)) nodup
        (hthere _ (by simp [written])) hrelative]
      rfl
    · rw [field_of_mem (v := .list (s.targets.map fun p => .scalar (.text p.source))) nodup
        (hthere _ (by simp [written]))]
      exact readTargets_sources _ s.targets
    · rw [field_of_mem (v := writtenRename s.rename) nodup
        (hthere _ (by simp [written]))]
      exact readRename_writtenRename _ normal.rename
    · rw [field_oneOf (v := .scalar (.text s.candidates.source)) nodup
        (hthere _ (by simp [written])) hcandidates]
      exact readPattern_source _ s.candidates
    · rw [field_oneOf (v := .scalar (.text s.outputStyle.name)) nodup
        (hthere _ (by simp [written])) hstyle]
      exact readStyle_name _ s.outputStyle
    · rw [field_of_mem (v := .scalar (.int s.workers)) nodup
        (hthere _ (by simp [written]))]
      exact readWorkers_int _ normal.workers
  unfold ofValue
  simp only [hread]

end Fields

/-- **The settings that can be read are the normal ones.** -/
theorem accepted_iff_normal {s : Settings} : s.Accepted ↔ s.Normal :=
  ⟨Accepted.normal, fun normal =>
    ⟨.map (s.written ⟨false, false, false, false⟩), normal.ofValue_written (.refl _)⟩⟩

/-- **Settings that were read are normal, and read the same again**, under whichever names and in
whatever order they are written. -/
theorem Accepted.reread {s : Settings} (accepted : s.Accepted) :
    s.Normal ∧
      ∀ (n : Naming) (raw : List (Scalar × Value)), raw.Perm (s.written n) →
        ofValue (.map raw) = .ok s :=
  ⟨accepted.normal, fun _ _ h => accepted.normal.ofValue_written h⟩

/-- Settings with something to trim or to complete in every field that can have it. -/
def loose : Value := .map [
  (.text "workers".toList, .scalar (.text " +2 ".toList)),
  (.text "output_style".toList, .scalar (.bytes [32, 67, 79, 109, 112, 97, 99, 116])),
  (.text "rename".toList, .scalar (.text " min.css ".toList)),
  (.text "targets".toList, .list [.scalar (.text stylesheets.source)]),
  (.text "resolveRelativePaths".toList, .scalar (.text "Off".toList)),
  (.text "replace".toList, .map [(.text "~/".toList, .scalar (.text "//".toList))]),
  (.text "alias".toList, .map [(.text "/ui".toList, .scalar (.text "lib/ui/".toList)),
    (.text "@//".toList, .scalar (.text [])), (.text "ui/x".toList, .scalar (.text "x".toList))]),
  (.text "module_base".toList, .scalar (.text "//web/static/".toList))]

/-- What `loose` is read as. -/
def tight : Settings where
  moduleBase := "web/static".toList
  aliases := .ofList
    [("ui".toList, "lib/ui".toList), (['@'], []), ("ui/x".toList, ['x'])]
  replace := .ofList [(['~'], [])]
  resolveRelative := false
  targets := [stylesheets]
  rename := some ".min.css".toList
  candidates := stylesheets
  outputStyle := .compact
  workers := 2

/-- Read, written in the opposite order and under mixed names, and read again. -/
theorem reread_loose :
    ofValue loose = .ok tight ∧ tight.Normal ∧
      ofValue (.map (tight.written ⟨true, false, true, false⟩).reverse) = .ok tight := by
  have hread : ofValue loose = .ok tight := by rfl
  have hreread := Accepted.reread ⟨loose, hread⟩
  exact ⟨hread, hreread.1, hreread.2 _ _ (List.reverse_perm _)⟩

end Settings

end StyleBuild
