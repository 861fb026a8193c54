import StyleBuild.Settings.File
import StyleBuild.Proofs.Settings.Accepted

/-!
# Bad settings end in a complaint

Whoever hands over bad settings should be told so: the reading ends with settings, or with a
complaint about them (`Settings.Surfaces`).  This file finds out where it does not.

Of the readers of the fields, only the one of patterns can end the reading at once, and what ends it
is the breakdown of the first pattern that has one (`stop?_readFields`).  Complaints about other
fields neither cause this nor prevent it.  So raw settings surface exactly when none of their
patterns breaks down (`surfaces_ofValue_iff`).

A file adds two ways to fail, which come first: its bytes may be no text, and its document may break
down on a value (`surfaces_ofFileBy_iff`).  How a document is made of a text does not matter for
that, so this is about an arbitrary reader of documents; settings files are read by one of them
(`ofFile_eq_ofFileBy`).
-/

namespace StyleBuild

/-- A problem with settings, in the words of the build step. -/
def Fault.IsComplaint (e : Fault) : Prop :=
  ∃ summary details, e = .problem (.settings summary details)

/-! ## What ends a reading at once -/

namespace Reading

variable {α β : Type}

/-- The fault that ended the reading at once. -/
def stop? : Reading α → Option Fault
  | stop e => some e
  | _ => none

@[simp] lemma stop?_map (f : α → β) (x : Reading α) : (f <$> x).stop? = x.stop? := by
  change (map f x).stop? = _
  cases x <;> rfl

/-- Complaints about the first part do not keep the second one from being the end. -/
@[simp] lemma stop?_seq (x : Reading (α → β)) (y : Reading α) :
    (x <*> y).stop? = x.stop?.or y.stop? := by
  change (both x y).stop? = _
  cases x <;> cases y <;> rfl

lemma stop?_andThen {x : Reading α} {f : α → Reading β} (hx : x.stop? = none)
    (hf : ∀ a, (f a).stop? = none) : (x.andThen f).stop? = none := by
  cases x with
  | ok a => exact hf a
  | bad cs => rfl
  | stop e => cases hx

end Reading

namespace Value

def text? : Value → Option Text
  | .scalar (.text t) => some t
  | _ => none

/-- The items of a list or a set. -/
def items : Value → List Value
  | .list items => items
  | .set items => items.map .scalar
  | _ => []

/-- What the first of the names that is there is bound to. -/
def findFirst? (names : List Text) (entries : List (Scalar × Value)) : Option Value :=
  names.findSome? fun name => find? name entries

end Value

/-- The fault of a pattern that no complaint is made of. -/
def Pattern.breakdown? (t : Text) : Option Fault :=
  match ofText t with
  | .error .tooManyRounds => some .overflow
  | .error .tooWide => some (.crash "invalid SRE code".toList)
  | _ => none

lemma Pattern.not_isComplaint_of_breakdown? {t : Text} {e : Fault} (h : breakdown? t = some e) :
    ¬ e.IsComplaint := by
  rintro ⟨summary, details, rfl⟩
  unfold breakdown? at h
  split at h <;> cases h

namespace Settings

section Fields

variable (place : List Text) (v : Value)

@[simp] lemma stop?_readText : (readText place v).stop? = none := by
  unfold readText
  split
  · rfl
  · split <;> rfl
  · rfl

@[simp] lemma stop?_readDirectory : (readDirectory place v).stop? = none :=
  (Reading.stop?_map Path.strip _).trans (stop?_readText place v)

@[simp] lemma stop?_readEntries (entries : List (Scalar × Value)) :
    (readEntries place entries).stop? = none := by
  induction entries with
  | nil => rfl
  | cons e entries ih => simp [readEntries, ih]

@[simp] lemma stop?_readTable (table : Text) : (readTable table place v).stop? = none := by
  unfold readTable
  split
  · refine Reading.stop?_andThen (stop?_readEntries place _) fun es => ?_
    split <;> rfl
  · rfl

@[simp] lemma stop?_readFlagWord (t : Text) : (readFlagWord place t).stop? = none := by
  unfold readFlagWord
  split <;> rfl

@[simp] lemma stop?_readFlagNumber (n : ℤ) : (readFlagNumber place n).stop? = none := by
  unfold readFlagNumber
  split_ifs <;> rfl

@[simp] lemma stop?_readFlag : (readFlag place v).stop? = none := by
  unfold readFlag
  split
  · rfl
  · exact stop?_readFlagNumber place _
  · split
    · split_ifs
      · rfl
      · exact stop?_readFlagNumber place _
    · rfl
  · exact stop?_readFlagWord place _
  · split
    · exact stop?_readFlagWord place _
    · rfl
  · rfl

@[simp] lemma stop?_readRename : (readRename place v).stop? = none := by
  unfold readRename
  split
  · rfl
  · rfl
  · dsimp only
    split_ifs <;> rfl
  · rfl

@[simp] lemma stop?_readStyle : (readStyle place v).stop? = none :=
  Reading.stop?_andThen (stop?_readText place v) fun t => by split <;> rfl

@[simp] lemma stop?_atLeastOne (n : ℤ) : (atLeastOne place n).stop? = none := by
  unfold atLeastOne
  split_ifs <;> rfl

@[simp] lemma stop?_readNumeral (t : Text) : (readNumeral place t).stop? = none := by
  unfold readNumeral
  split
  · exact stop?_atLeastOne place _
  · rfl
  · rfl

@[simp] lemma stop?_readWorkers : (readWorkers place v).stop? = none := by
  unfold readWorkers
  split
  · exact stop?_atLeastOne place _
  · exact stop?_atLeastOne place _
  · rfl
  · rfl
  · split
    · split_ifs
      · exact stop?_atLeastOne place _
      · rfl
    · rfl
  · exact stop?_readNumeral place _
  · split
    · exact stop?_readNumeral place _
    · rfl
  · rfl

/-! ## Patterns -/

lemma stop?_readPattern : (readPattern place v).stop? = v.text?.bind Pattern.breakdown? := by
  unfold readPattern
  split
  · next t =>
    change _ = Pattern.breakdown? t
    unfold Pattern.breakdown?
    cases Pattern.ofText t with
    | ok p => rfl
    | error e => cases e <;> rfl
  · rfl
  · next hnotText _ =>
    rw [Value.text?]
    · rfl
    · exact hnotText

/-- The first pattern that breaks down ends the reading. -/
lemma stop?_readPatterns (index : ℕ) (vs : List Value) :
    (readPatterns place index vs).stop? =
      (vs.filterMap Value.text?).findSome? Pattern.breakdown? := by
  induction vs generalizing index with
  | nil => rfl
  | cons v vs ih =>
    rw [readPatterns, Reading.stop?_seq, Reading.stop?_map, stop?_readPattern, ih]
    cases ht : v.text? with
    | none => rw [List.filterMap_cons_none ht, Option.bind_none, Option.none_or]
    | some t =>
      rw [List.filterMap_cons_some ht, Option.bind_some, List.findSome?_cons]
      cases Pattern.breakdown? t <;> rfl

lemma stop?_readTargets :
    (readTargets place v).stop? =
      (v.items.filterMap Value.text?).findSome? Pattern.breakdown? := by
  cases v with
  | list items => exact stop?_readPatterns place 0 items
  | set items => exact stop?_readPatterns place 0 _
  | _ => rfl

end Fields

/-! ## All fields -/

lemma stop?_field {α : Type} {entries : List (Scalar × Value)} {names : List Text} {absent : α}
    {read : List Text → Value → Reading α} {ends : Value → Option Fault}
    (h : ∀ place v, (read place v).stop? = ends v) :
    (field entries names absent read).stop? = (Value.findFirst? names entries).bind ends := by
  unfold field Value.findFirst?
  induction names with
  | nil => rfl
  | cons name names ih =>
    rw [List.findSome?_cons, List.findSome?_cons]
    cases Value.find? name entries with
    | none => exact ih
    | some v => exact h _ v

/-- The texts that are read as patterns, in their order. -/
def patternTexts : Value → List Text
  | .map entries =>
    ((Value.findFirst? ["targets".toList] entries).toList.flatMap Value.items ++
      (Value.findFirst? ["match".toList, "candidate_pattern".toList] entries).toList).filterMap
        Value.text?
  | _ => []

/-- **Only patterns end the reading of the fields at once**, and it is the first one to break down
that does. -/
theorem stop?_readFields (entries : List (Scalar × Value)) :
    (readFields entries).stop? = (patternTexts (.map entries)).findSome? Pattern.breakdown? := by
  unfold readFields
  simp only [Reading.stop?_seq, Reading.stop?_map,
    stop?_field stop?_readDirectory, stop?_field fun place v => stop?_readTable place v _,
    stop?_field stop?_readFlag, stop?_field stop?_readTargets, stop?_field stop?_readRename,
    stop?_field stop?_readPattern, stop?_field stop?_readStyle, stop?_field stop?_readWorkers,
    Option.bind_fun_none, Option.none_or, Option.or_none]
  rw [patternTexts, List.filterMap_append, List.findSome?_append]
  congr 1
  · cases Value.findFirst? ["targets".toList] entries with
    | none => rfl
    | some v => rw [Option.bind_some, Option.toList_some, List.flatMap_singleton]
  · cases Value.findFirst? ["match".toList, "candidate_pattern".toList] entries with
    | none => rfl
    | some v =>
      rw [Option.bind_some, Option.toList_some, List.filterMap_cons]
      cases v.text? with
      | none => rfl
      | some t => exact (List.findSome?_singleton ..).symm

/-! ## What comes out -/

/-- Only settings and complaints about them come out. -/
def Surfaces (r : Except Fault Settings) : Prop := ∀ e, r = .error e → e.IsComplaint

lemma surfaces_ok (s : Settings) : Surfaces (.ok s) := nofun

lemma surfaces_error_iff {e : Fault} : Surfaces (.error e) ↔ e.IsComplaint :=
  ⟨fun h => h e rfl, fun h _ heq => Except.error.inj heq ▸ h⟩

lemma surfaces_fileProblem (before path after : Text) :
    Surfaces (.error (fileProblem before path after)) :=
  surfaces_error_iff.2 ⟨_, _, rfl⟩

/-- **Raw settings come out as settings or a complaint exactly when no pattern breaks down.** -/
theorem surfaces_ofValue_iff {raw : Value} :
    Surfaces (ofValue raw) ↔ ∀ t ∈ patternTexts raw, Pattern.breakdown? t = none := by
  unfold ofValue
  split
  · exact iff_of_true (surfaces_ok _) nofun
  · next entries =>
    have hstop := stop?_readFields entries
    rw [← List.findSome?_eq_none_iff, ← hstop]
    cases hread : readFields entries with
    | ok s => exact iff_of_true (surfaces_ok s) rfl
    | bad cs => exact iff_of_true (surfaces_error_iff.2 ⟨_, _, rfl⟩) rfl
    | stop e =>
      rw [hread] at hstop
      obtain ⟨t, -, ht⟩ := List.exists_of_findSome?_eq_some hstop.symm
      exact iff_of_false (Pattern.not_isComplaint_of_breakdown? ht ∘ surfaces_error_iff.1) nofun
  · next hnull hmap =>
    refine iff_of_true (surfaces_error_iff.2 ⟨_, _, rfl⟩) ?_
    cases raw with
    | map entries => exact absurd rfl (hmap entries)
    | _ => exact nofun

/-! ## Files -/

/-- Reads the document in a text, if there is one. -/
abbrev DocumentReader := Text → Except Yaml.Refusal (Option Value)

/-- The value of a document; where nothing is written it is null. -/
def documentValue (d : Option Value) : Value := d.getD (.scalar .null)

/-- The settings in a document with a value. -/
def ofDocument (path : Text) (v : Value) : Except Fault Settings :=
  match if v.isBlank then .map [] else v with
  | .map entries => ofValue (.map entries)
  | _ => .error (fileProblem "Settings file ".toList path " must contain a mapping".toList)

/-- The settings in the text of a file. -/
def ofTextBy (parse : DocumentReader) (path t : Text) : Except Fault Settings :=
  if t.all CharClass.isBlank then ofValue (.map [])
  else match parse t with
    | .ok d => ofDocument path (documentValue d)
    | .error .malformed => .error (fileProblem "Cannot parse settings file ".toList path [])
    | .error (.fault e) => .error e

/-- Reads a settings file by a reader of documents. -/
def ofFileBy (parse : DocumentReader) (path : Text) : Option Bytes → Except Fault Settings
  | none => .error (fileProblem "Settings file not found: ".toList path [])
  | some bytes =>
    match Utf8.decode bytes with
    | .error e => .error (.undecodable e)
    | .ok t => ofTextBy parse path (normalLineEnds t)

section Files

variable {parse : DocumentReader} {path t : Text} {bytes : Bytes} {content : Option Bytes}

lemma ofFile_eq_ofFileBy (path : Text) (content : Option Bytes) :
    ofFile path content = ofFileBy (Yaml.ofText depth) path content := by
  cases content with
  | none => rfl
  | some bytes =>
    simp only [ofFile, ofFileBy, rawOfText, ofTextBy]
    cases Utf8.decode bytes with
    | error e => rfl
    | ok t =>
      dsimp only
      split_ifs
      · rfl
      · rcases Yaml.ofText depth (normalLineEnds t) with (_ | e) | _ | v
        · rfl
        · rfl
        · rfl
        · dsimp only [documentValue, Option.getD_some, ofDocument]
          cases if v.isBlank then Value.map [] else v <;> rfl

/-- The document in the text of a file; a blank text has none. -/
def documentOf (parse : DocumentReader) (t : Text) : Except Yaml.Refusal (Option Value) :=
  if (normalLineEnds t).all CharClass.isBlank then .ok none else parse (normalLineEnds t)

/-- A document whose reading does not break down, neither on one of its values nor on one of the
patterns in it. -/
structure Legible (d : Except Yaml.Refusal (Option Value)) : Prop where
  values : ∀ e, d = .error (.fault e) → e.IsComplaint
  patterns : ∀ v, d = .ok (some v) → ∀ t ∈ patternTexts v, Pattern.breakdown? t = none

lemma legible_ok_some_iff {v : Value} :
    Legible (.ok (some v)) ↔ ∀ t ∈ patternTexts v, Pattern.breakdown? t = none :=
  ⟨fun h => h.patterns v rfl, fun h => ⟨nofun, fun _ heq => by
    obtain rfl := Option.some.inj (Except.ok.inj heq)
    exact h⟩⟩

lemma legible_fault_iff {e : Fault} : Legible (.error (.fault e)) ↔ e.IsComplaint :=
  ⟨fun h => h.values e rfl, fun h => ⟨fun _ heq => by
    obtain rfl := Yaml.Refusal.fault.inj (Except.error.inj heq)
    exact h, nofun⟩⟩

/-- A value that says nothing has no patterns. -/
lemma patternTexts_of_isBlank {v : Value} (h : v.isBlank) : patternTexts v = [] := by
  cases v with
  | map entries =>
    obtain rfl := List.isEmpty_iff.1 h
    rfl
  | _ => rfl

lemma patternTexts_ite_isBlank {v : Value} :
    patternTexts (if v.isBlank then .map [] else v) = patternTexts v := by
  split_ifs with h
  · exact (patternTexts_of_isBlank h).symm
  · rfl

lemma surfaces_ofFileBy_iff_legible (h : Utf8.decode bytes = .ok t) :
    Surfaces (ofFileBy parse path (some bytes)) ↔ Legible (documentOf parse t) := by
  have hnothing : Surfaces (ofValue (.map [])) ↔ Legible (.ok none) :=
    iff_of_true (surfaces_ofValue_iff.2 nofun) ⟨nofun, nofun⟩
  unfold ofFileBy ofTextBy documentOf
  simp only [h]
  split_ifs
  · exact hnothing
  · rcases parse (normalLineEnds t) with (_ | e) | _ | v
    · exact iff_of_true (surfaces_fileProblem _ _ _) ⟨nofun, nofun⟩
    · exact surfaces_error_iff.trans legible_fault_iff.symm
    · exact hnothing
    · rw [legible_ok_some_iff, ← patternTexts_ite_isBlank]
      dsimp only [ofDocument, documentValue, Option.getD_some]
      cases (if v.isBlank then .map [] else v) with
      | map entries => exact surfaces_ofValue_iff
      | _ => exact iff_of_true (surfaces_fileProblem _ _ _) nofun

/-- **A file comes out as settings or a complaint exactly when there is none, or its bytes are the
text of a legible document.** -/
theorem surfaces_ofFileBy_iff :
    Surfaces (ofFileBy parse path content) ↔
      ∀ bytes ∈ content, ∃ t, Utf8.decode bytes = .ok t ∧ Legible (documentOf parse t) := by
  cases content with
  | none => exact iff_of_true (surfaces_fileProblem _ _ _) nofun
  | some bytes =>
    simp only [Option.mem_some_iff, forall_eq']
    cases hdecode : Utf8.decode bytes with
    | ok t =>
      simp only [Except.ok.injEq, exists_eq_left']
      exact surfaces_ofFileBy_iff_legible hdecode
    | error f =>
      refine iff_of_false (fun h => ?_) nofun
      obtain ⟨summary, details, heq⟩ := h (.undecodable f) (by simp only [ofFileBy, hdecode])
      cases heq

end Files

/-- **Where bad settings come out as a complaint**: raw settings with every pattern that does not
break down, and files that are not there or are the text of a legible document, whatever makes
documents of texts.  Settings files are read with one such reader. -/
theorem surfaces_iff (parse : DocumentReader) (raw : Value) (path : Text)
    (content : Option Bytes) :
    (Surfaces (ofValue raw) ↔ ∀ t ∈ patternTexts raw, Pattern.breakdown? t = none) ∧
      (Surfaces (ofFileBy parse path content) ↔
        ∀ bytes ∈ content, ∃ t, Utf8.decode bytes = .ok t ∧ Legible (documentOf parse t)) ∧
      ofFile path content = ofFileBy (Yaml.ofText depth) path content :=
  ⟨surfaces_ofValue_iff, surfaces_ofFileBy_iff, ofFile_eq_ofFileBy path content⟩

/-- It does not take a document or a pattern that breaks down: bytes that are no text come out as
such. -/
theorem not_forall_surfaces :
    ¬ ((∀ raw, (∀ t ∈ patternTexts raw, Pattern.breakdown? t = none) → Surfaces (ofValue raw)) ∧
      ∀ path content,
        (∀ bytes ∈ content, ∀ t, Utf8.decode bytes = .ok t →
          Legible (documentOf (Yaml.ofText depth) t)) →
          Surfaces (ofFile path content)) := by
  rintro ⟨-, hfiles⟩
  have hbytes : ∀ t, Utf8.decode [0xFF] ≠ .ok t := nofun
  obtain ⟨summary, details, heq⟩ := hfiles "sass.yaml".toList (some [0xFF])
    (fun bytes hmem t ht => by
      obtain rfl := Option.some.inj hmem
      exact absurd ht (hbytes t)) _ rfl
  cases heq

end Settings

end StyleBuild
