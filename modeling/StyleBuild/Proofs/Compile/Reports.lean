import StyleBuild.Compile.Bridge
import Mathlib.Data.List.Infix
import Mathlib.Data.List.TakeWhile

/-!
# Reading reports

A report of the engine is read by looking for the first `on line N of F` in it.  This file says what
is found in a report that is worded as the engine words it, whatever its message is.

`on line ` does not overlap with itself, so if a text does not contain it, no location begins in
that text (`location?_append_lineMark`).  What begins with the mark is read as it is meant: the
digits of a number are all that is taken for it (`digits?_append`), and give it back
(`Digits.ofDecimals_ofNat`); a column behind it is passed over (`afterColumn_append`).  Only the
file may be cut short, at its first blank (`word`).  Put together, that is `location?_wording`.
Whatever a location was found in, its file has no blank (`isBlank_of_mem_file`).
-/

namespace StyleBuild

/-! ## Numbers -/

namespace CharClass

variable {c : Char}

lemma toNat_of_isDigit (h : c.isDigit = true) : 48 ≤ c.toNat ∧ c.toNat ≤ 57 := by
  simpa [Char.isDigit, UInt32.le_iff_toNat_le] using h

lemma isDecimal_of_isDigit (h : c.isDigit = true) : isDecimal c = true := by
  have := toNat_of_isDigit h
  simp [isDecimal, Ranges.has, decimals, this]

lemma digitValue?_of_isDigit (h : c.isDigit = true) : digitValue? c = some (c.toNat - 48) := by
  have hc := toNat_of_isDigit h
  have hfirst : decimals.find? (fun r => decide (r.1 ≤ c.toNat) && decide (c.toNat ≤ r.2)) =
      some (0x30, 0x39) := by
    simp [decimals, hc]
  rw [digitValue?, hfirst, Option.map_some]
  congr 1
  omega

end CharClass

namespace Digits

/-- ASCII digits write the same number as the library reads. -/
lemma ofDecimals_eq_ofDigitChars {t : Text} (h : ∀ c ∈ t, c.isDigit = true) :
    ofDecimals t = Nat.ofDigitChars 10 t 0 := by
  induction t using List.reverseRecOn with
  | nil => rfl
  | append_singleton t c ih =>
    obtain ⟨ht, hc⟩ := List.forall_mem_append.1 h
    have hvalue := CharClass.digitValue?_of_isDigit (hc c List.mem_cons_self)
    rw [ofDecimals, List.filterMap_append, List.filterMap_cons_some hvalue, List.filterMap_nil,
      value_append_singleton, Nat.ofDigitChars_append, ← ih ht, ofDecimals, Nat.mul_comm]
    rfl

/-- **The digits of a number write that number.** -/
theorem ofDecimals_ofNat (n : Nat) : ofDecimals (Text.ofNat n) = n := by
  have hdigits : ∀ c ∈ Text.ofNat n, c.isDigit = true :=
    fun c hc => Nat.isDigit_of_mem_toDigits (by decide) (by decide) hc
  rw [ofDecimals_eq_ofDigitChars hdigits, Text.ofNat]
  exact Nat.ofDigitChars_toDigits (by decide) (by decide)

end Digits

/-! ## Marks -/

namespace Text

/-- What lacks a character does not lie across it. -/
lemma isInfix_or_of_append_cons {l x y : Text} {c : Char} (hc : c ∉ l) (h : l <:+: x ++ c :: y) :
    l <:+: x ∨ l <:+: y := by
  obtain ⟨before, after, h⟩ := h
  rw [List.append_assoc, List.append_eq_append_iff] at h
  rcases h with ⟨e, rfl, h⟩ | ⟨e, rfl, h⟩
  · rcases List.append_eq_append_iff.1 h with ⟨g, rfl, -⟩ | ⟨g, rfl, hg⟩
    · exact .inl ⟨before, g, List.append_assoc _ _ _⟩
    · cases g with
      | nil => exact .inl ⟨before, [], by simp⟩
      | cons a g =>
        obtain rfl := (List.cons.inj hg).1
        exact absurd (List.mem_append_right _ List.mem_cons_self) hc
  · cases e with
    | nil =>
      cases l with
      | nil => exact .inl (List.nil_infix)
      | cons a l =>
        obtain rfl := (List.cons.inj h).1
        exact absurd List.mem_cons_self hc
    | cons a e =>
      obtain rfl := (List.cons.inj h).2
      exact .inr ⟨e, after, List.append_assoc _ _ _⟩

end Text

namespace Report

variable {t pre rest file : Text}

lemma locationHere?_of_not_isPrefix (h : ¬ lineMark <+: t) : locationHere? t = none := by
  rw [locationHere?, Text.after?_eq_none_iff.2 h, Option.bind_none]

/-- No end of the mark is a beginning of it. -/
lemma not_drop_lineMark_isPrefix :
    ∀ k < lineMark.length, 0 < k → ¬ lineMark.drop k <+: lineMark := by
  decide

/-- The mark does not overlap with itself. -/
lemma lineMark_isPrefix_of_append (hne : pre ≠ [])
    (h : lineMark <+: pre ++ (lineMark ++ rest)) : lineMark <+: pre := by
  by_cases hlength : lineMark.length ≤ pre.length
  · exact List.prefix_of_prefix_length_le h (List.prefix_append _ _) hlength
  · have hpre : pre <+: lineMark :=
      List.prefix_of_prefix_length_le (List.prefix_append _ _) h (Nat.le_of_not_le hlength)
    obtain ⟨overlap, hoverlap⟩ := hpre
    have hdrop : lineMark.drop pre.length = overlap := by rw [← hoverlap, List.drop_left]
    have hbegins : overlap <+: lineMark ++ rest := by
      rwa [← hoverlap, List.prefix_append_right_inj, hoverlap] at h
    have hborder : lineMark.drop pre.length <+: lineMark := by
      rw [hdrop]
      refine List.prefix_of_prefix_length_le hbegins (List.prefix_append _ _) ?_
      rw [← hdrop, List.length_drop]
      exact Nat.sub_le _ _
    exact absurd hborder (not_drop_lineMark_isPrefix _ (Nat.lt_of_not_le hlength)
      (List.length_pos_of_ne_nil hne))

/-- **No location begins in a text without the mark.** -/
theorem location?_append_lineMark (h : ¬ lineMark <:+: pre) :
    location? (pre ++ (lineMark ++ rest)) = location? (lineMark ++ rest) := by
  induction pre with
  | nil => rfl
  | cons c pre ih =>
    have hhere : ¬ lineMark <+: c :: pre ++ (lineMark ++ rest) := fun hbegins =>
      h (lineMark_isPrefix_of_append (List.cons_ne_nil c pre) hbegins).isInfix
    have hthere : ¬ lineMark <:+: pre := fun hinside =>
      h (hinside.trans (List.suffix_cons c pre).isInfix)
    have hnone := locationHere?_of_not_isPrefix hhere
    rw [List.cons_append] at hnone ⊢
    rw [location?, hnone, Option.none_or, ih hthere]

/-! ## Locations -/

/-- What comes before the first blank. -/
def word (t : Text) : Text := t.takeWhile fun c => !CharClass.isBlank c

lemma word_eq_self (h : ∀ c ∈ t, CharClass.isBlank c = false) : word t = t :=
  List.takeWhile_eq_self_iff.2 fun c hc => by rw [h c hc]; rfl

/-- Digits are taken for a number, and nothing else. -/
lemma digits?_append {ds : Text} (hne : ds ≠ [])
    (hdigits : ∀ c ∈ ds, CharClass.isDecimal c = true)
    (h : ∀ c ∈ rest.head?, CharClass.isDecimal c = false) : digits? (ds ++ rest) = some (ds, rest) := by
  have hrest : rest.takeWhile CharClass.isDecimal = [] ∧
      rest.dropWhile CharClass.isDecimal = rest := by
    cases rest with
    | nil => exact ⟨rfl, rfl⟩
    | cons c rest =>
      have hc : CharClass.isDecimal c = false := h c rfl
      simp [hc]
  rw [digits?, List.takeWhile_append_of_pos hdigits, List.dropWhile_append_of_pos hdigits, hrest.1,
    hrest.2, List.append_nil]
  exact if_neg hne

lemma isDecimal_of_mem_ofNat {n : ℕ} : ∀ c ∈ Text.ofNat n, CharClass.isDecimal c = true :=
  fun _ hc =>
    CharClass.isDecimal_of_isDigit (Nat.isDigit_of_mem_toDigits (by decide) (by decide) hc)

/-- A column behind a line number: nothing, or a colon and digits. -/
def IsColumn (t : Text) : Prop :=
  t = [] ∨ ∃ ds, t = ':' :: ds ∧ ds ≠ [] ∧ ∀ c ∈ ds, CharClass.isDecimal c = true

/-- A column is passed over. -/
lemma afterColumn_append {column : Text} (h : IsColumn column) :
    afterColumn (column ++ (fileMark ++ file)) = fileMark ++ file := by
  rcases h with rfl | ⟨ds, rfl, hne, hdigits⟩
  · rfl
  · have hmark : ∀ c ∈ (fileMark ++ file).head?, CharClass.isDecimal c = false := by
      intro c hc
      obtain rfl : ' ' = c := Option.some.inj hc
      decide
    rw [List.cons_append, afterColumn, digits?_append hne hdigits hmark]

/-- **A location is read with all of its line number**, and its file up to the first blank. -/
theorem locationHere?_lineMark (n : ℕ) {column : Text} (hcolumn : IsColumn column)
    (hfile : word file ≠ []) :
    locationHere? (lineMark ++ (Text.ofNat n ++ (column ++ (fileMark ++ file)))) =
      some ⟨Text.ofNat n, word file⟩ := by
  -- A column begins with a colon and the file mark with a blank, so the number ends before them.
  have hend : ∀ c ∈ (column ++ (fileMark ++ file)).head?, CharClass.isDecimal c = false := by
    intro c hc
    rcases hcolumn with rfl | ⟨ds, rfl, -⟩
    · obtain rfl : ' ' = c := Option.some.inj hc
      decide
    · obtain rfl : ':' = c := Option.some.inj hc
      decide
  have hdigits : digits? (Text.ofNat n ++ (column ++ (fileMark ++ file))) =
      some (Text.ofNat n, column ++ (fileMark ++ file)) :=
    digits?_append Nat.toDigits_ne_nil isDecimal_of_mem_ofNat hend
  simp only [locationHere?, Text.after?_append, Option.bind_some, hdigits,
    afterColumn_append hcolumn]
  exact if_neg hfile

/-- **The first location is the one behind the first mark.** -/
theorem location?_of_locationHere? {l : Location} (h : ¬ lineMark <:+: pre)
    (hhere : locationHere? (lineMark ++ rest) = some l) :
    location? (pre ++ (lineMark ++ rest)) = some l := by
  rw [location?_append_lineMark h]
  cases htext : lineMark ++ rest with
  | nil => cases htext
  | cons c r =>
    rw [htext] at hhere
    rw [location?, hhere, Option.some_or]

/-- The file of a location has no blank. -/
lemma isBlank_of_mem_file {l : Location} (h : location? t = some l) :
    ∀ c ∈ l.file, CharClass.isBlank c = false := by
  induction t with
  | nil => cases h
  | cons a t ih =>
    rw [location?, Option.or_eq_some_iff] at h
    rcases h with hhere | ⟨-, hthere⟩
    · simp only [locationHere?, Option.bind_eq_some_iff] at hhere
      obtain ⟨r₁, -, ⟨digits, r₂⟩, -, r₃, -, hlocation⟩ := hhere
      split at hlocation
      · cases hlocation
      · obtain rfl := Option.some.inj hlocation
        intro c hc
        simpa using List.mem_takeWhile_imp hc
    · exact ih hthere

/-- A report as the engine words it. -/
def wording (message : Text) (line : ℕ) (file : Text) : Text :=
  errorMark ++ message ++ '\n' :: (lineMark ++ (Text.ofNat line ++ (fileMark ++ file)))

/-- The message does not get a mark from what stands around it. -/
lemma not_lineMark_isInfix {message : Text} (h : ¬ lineMark <:+: message) :
    ¬ lineMark <:+: errorMark ++ message ++ ['\n'] := by
  intro hinside
  rcases Text.isInfix_or_of_append_cons (by decide) hinside with hinside | hinside
  · have hcolon : errorMark ++ message = "Error".toList ++ ':' :: (' ' :: message) := rfl
    rw [hcolon] at hinside
    rcases Text.isInfix_or_of_append_cons (by decide) hinside with hinside | hinside
    · exact absurd hinside.length_le (by decide)
    · rcases List.infix_cons_iff.1 hinside with hbegins | hinside
      · cases (List.cons_prefix_cons.1 hbegins).1
      · exact h hinside
  · exact absurd hinside.length_le (by decide)

/-- **The location of a report is the one that it was worded with**, except that the file ends with
its first blank. -/
theorem location?_wording {message : Text} (n : ℕ) (hmessage : ¬ lineMark <:+: message)
    (hfile : word file ≠ []) :
    location? (wording message n file) = some ⟨Text.ofNat n, word file⟩ := by
  have hwording : wording message n file =
      (errorMark ++ message ++ ['\n']) ++ (lineMark ++ (Text.ofNat n ++ (fileMark ++ file))) := by
    simp [wording]
  rw [hwording]
  exact location?_of_locationHere? (not_lineMark_isInfix hmessage)
    (locationHere?_lineMark n (.inl rfl) hfile)

/-! ## Diagnoses -/

/-- The entry document is known by its path, unless that is empty. -/
lemma fileOf_some (l : Location) (path : Text) :
    fileOf l (some path) = if Path.name l.file = entryName ∧ path ≠ [] then path else l.file := by
  cases path with
  | nil => simp [fileOf]
  | cons c path => simp [fileOf]

/-- What is read out of a report that is worded as the engine words it. -/
lemma read_wording {message : Text} {n : ℕ} (hmessage : ¬ lineMark <:+: message)
    (hn : (Text.ofNat n).length ≤ Digits.limit) (hfile : word file ≠ []) (entry : Option Text) :
    read (wording message n file) entry = .ok ⟨Report.message (wording message n file),
      some (fileOf ⟨Text.ofNat n, word file⟩ entry), some n, none⟩ := by
  have hlimit : ¬ Digits.limit < (Text.ofNat n).length := Nat.not_lt_of_le hn
  simp only [read, location?_wording n hmessage hfile, hlimit, if_false, Digits.ofDecimals_ofNat]

/-- The file of a diagnosis is the path of the entry document, or has no blank. -/
lemma isBlank_of_read {path : Text} {d : Diagnosis} (h : read t (some path) = .ok d)
    (hfile : d.file = some file) : file = path ∨ ∀ c ∈ file, CharClass.isBlank c = false := by
  unfold read at h
  cases hlocation : location? t with
  | none =>
    rw [hlocation] at h
    obtain rfl := Except.ok.inj h
    cases hfile
  | some l =>
    simp only [hlocation] at h
    split at h
    · cases h
    · obtain rfl := Except.ok.inj h
      obtain rfl := Option.some.inj hfile
      rw [fileOf_some]
      split
      · exact .inl rfl
      · exact .inr (isBlank_of_mem_file hlocation)

/-- A report that cannot be read is no diagnosis. -/
lemma diagnosis?_of_read {entry : Option Text} {e : Fault} (h : read t entry = .error e) :
    e.diagnosis? = none := by
  unfold read at h
  cases hlocation : location? t with
  | none =>
    rw [hlocation] at h
    cases h
  | some l =>
    simp only [hlocation] at h
    split at h
    · obtain rfl := Except.error.inj h
      rfl
    · cases h

end Report

end StyleBuild
