import StyleBuild.Proofs.Compile.Reports
import StyleBuild.Proofs.Text.Trim

/-!
# Reports and what they were worded with

`Reports` finds the location of a report that has nothing but a message and a location.  An engine
says more than that: a location is indented and may have a column, the engine goes on with the
places that it came from, and there are blank lines around all of it.  `Wording` is such a report,
part by part, and `Wording.Regular` says of each part what keeps it apart from the others.

**Decoding.**  `read_text` says that each part comes back as it was, whatever the others are.

* The message is the first line.  It is found behind the blanks in front and without the mark of an
  error (`message_text`).
* The location is the first one, because nothing before it has a mark
  (`not_lineMark_isInfix_front`).  So locations further down do not count, although each of them
  could be read, too.

**What is not assumed.**  The message may begin with the mark of an error if the report does; only
one mark is taken off.  The digits of the column may be of any script.
-/

namespace StyleBuild.Report

/-- The parts of a report. -/
structure Wording where
  /-- Whether the report begins with the mark of an error. -/
  marked : Bool
  message : Text
  /-- How far the location is indented. -/
  indent : ℕ
  line : ℕ
  column : Text
  file : Text
  /-- What follows the location. -/
  rest : Text

namespace Wording

/-- What stands before the line with the location. -/
def headline (w : Wording) : Text := (if w.marked then errorMark else []) ++ w.message

/-- The location, and what follows it. -/
def place (w : Wording) : Text :=
  lineMark ++ (Text.ofNat w.line ++ (w.column ++ (fileMark ++ (w.file ++ w.rest))))

/-- The report as a whole. -/
def text (w : Wording) : Text :=
  w.headline ++ '\n' :: (List.replicate w.indent ' ' ++ w.place)

/-- No part of a report can be taken for something else. -/
structure Regular (w : Wording) : Prop where
  one_line : ∀ c ∈ w.message, isLineEnd c = false
  trimmed : trim w.message = w.message
  no_mark : ¬ lineMark <:+: w.message
  /-- Without a mark, the message has to be there, and may not look as if it had one. -/
  unmarked : w.marked = false → w.message ≠ [] ∧ ¬ errorMark <+: w.message
  digits : (Text.ofNat w.line).length ≤ Digits.limit
  column : IsColumn w.column
  file_ne_nil : w.file ≠ []
  file : ∀ c ∈ w.file, CharClass.isBlank c = false
  rest : ∀ c ∈ w.rest.head?, CharClass.isBlank c = true

variable {w : Wording} {before after : Text}

/-! ## The first line -/

/-- A headline begins with something that is no blank. -/
lemma Regular.isBlank_headline (regular : w.Regular) :
    ∃ c rest, w.headline = c :: rest ∧ CharClass.isBlank c = false := by
  unfold headline
  cases hmarked : w.marked with
  | true => exact ⟨'E', _, rfl, by decide⟩
  | false =>
    obtain ⟨c, rest, hmessage⟩ := List.exists_cons_of_ne_nil (regular.unmarked hmarked).1
    have htrimmed := Text.trimBoth_eq_self_iff.1 regular.trimmed
    exact ⟨c, rest, by simp [hmessage], htrimmed.front c (by rw [hmessage]; rfl)⟩

lemma Regular.isLineEnd_headline (regular : w.Regular) :
    ∀ c ∈ w.headline, isLineEnd c = false := by
  have hmark : errorMark.all (!isLineEnd ·) = true := by decide
  intro c hc
  rcases List.mem_append.1 hc with hc | hc
  · split at hc
    · simpa using List.all_eq_true.1 hmark c hc
    · cases hc
  · exact regular.one_line c hc

/-- **The first line is the headline**, whatever blanks there are around the report. -/
lemma Regular.firstLine_text (regular : w.Regular)
    (hbefore : ∀ c ∈ before, CharClass.isBlank c = true)
    (hafter : ∀ c ∈ after, CharClass.isBlank c = true) :
    firstLine (before ++ (w.text ++ after)) = w.headline := by
  obtain ⟨c, rest, hheadline, hc⟩ := regular.isBlank_headline
  obtain ⟨a, file, hfile⟩ := List.exists_cons_of_ne_nil regular.file_ne_nil
  -- Trimming stops at the headline in front, and behind at the latest at the file.
  have hfront : w.text.dropWhile CharClass.isBlank = w.text := by
    rw [text, hheadline, List.cons_append, List.dropWhile_cons_of_neg (by rw [hc]; simp)]
  have hback : Text.dropTrailing CharClass.isBlank (List.replicate w.indent ' ' ++ w.place) ≠ [] :=
    Text.dropTrailing_ne_nil (c := a) (by simp [place, hfile]) (regular.file a (by simp [hfile]))
  have htrim : trim (before ++ (w.text ++ after)) = w.headline ++
      '\n' :: Text.dropTrailing CharClass.isBlank (List.replicate w.indent ' ' ++ w.place) := by
    have hsplit : w.text =
        (w.headline ++ ['\n']) ++ (List.replicate w.indent ' ' ++ w.place) := by simp [text]
    rw [trim, Text.trimBoth_append hbefore hafter, Text.trimBoth, hfront, hsplit,
      Text.dropTrailing_append hback, List.append_assoc, List.singleton_append]
  have hline : ∀ c ∈ w.headline, (!isLineEnd c) = true := fun c hc => by
    rw [regular.isLineEnd_headline c hc]
    rfl
  have hend : (!isLineEnd '\n') = false := by decide
  rw [firstLine, htrim, List.takeWhile_append_of_pos hline,
    List.takeWhile_cons_of_neg (by rw [hend]; simp), List.append_nil]

/-- **The message comes back as it was.** -/
theorem Regular.message_text (regular : w.Regular)
    (hbefore : ∀ c ∈ before, CharClass.isBlank c = true)
    (hafter : ∀ c ∈ after, CharClass.isBlank c = true) :
    Report.message (before ++ (w.text ++ after)) = w.message := by
  have hrest : (Text.after? errorMark w.headline).getD w.headline = w.message := by
    unfold headline
    cases hmarked : w.marked with
    | true => rw [if_pos rfl, Text.after?_append, Option.getD_some]
    | false =>
      rw [if_neg (by simp), List.nil_append,
        Text.after?_eq_none_iff.2 (regular.unmarked hmarked).2, Option.getD_none]
  rw [Report.message, regular.firstLine_text hbefore hafter, hrest, regular.trimmed]

/-! ## The location -/

/-- Blanks in front of a text bring no mark into it, since a mark begins with a letter. -/
lemma lineMark_isInfix_of_blanks {blanks t : Text}
    (hblanks : ∀ c ∈ blanks, CharClass.isBlank c = true) (h : lineMark <:+: blanks ++ t) :
    lineMark <:+: t := by
  induction blanks with
  | nil => exact h
  | cons c blanks ih =>
    rw [List.forall_mem_cons] at hblanks
    rcases List.infix_cons_iff.1 h with hbegins | hinside
    · obtain rfl : 'o' = c := (List.cons_prefix_cons.1 hbegins).1
      exact absurd hblanks.1 (by decide)
    · exact ih hblanks.2 hinside

/-- **Nothing before the location has a mark.** -/
lemma Regular.not_lineMark_isInfix_front (regular : w.Regular)
    (hbefore : ∀ c ∈ before, CharClass.isBlank c = true) :
    ¬ lineMark <:+: before ++ (w.headline ++ '\n' :: List.replicate w.indent ' ') := by
  intro h
  rcases Text.isInfix_or_of_append_cons (by decide) (lineMark_isInfix_of_blanks hbefore h) with
    hheadline | hindent
  · have hmarked : lineMark <:+: errorMark ++ w.message ++ ['\n'] := by
      refine hheadline.trans ?_
      unfold headline
      split
      · exact (List.prefix_append _ _).isInfix
      · exact ⟨errorMark, ['\n'], by simp⟩
    exact not_lineMark_isInfix regular.no_mark hmarked
  · have hblank : ∀ c ∈ List.replicate w.indent ' ', CharClass.isBlank c = true := by
      intro c hc
      rw [List.eq_of_mem_replicate hc]
      decide
    rw [← List.append_nil (List.replicate w.indent ' ')] at hindent
    exact absurd (lineMark_isInfix_of_blanks hblank hindent) (by decide)

/-- The file ends where the rest begins. -/
lemma Regular.word_file (regular : w.Regular)
    (hafter : ∀ c ∈ after, CharClass.isBlank c = true) :
    word (w.file ++ (w.rest ++ after)) = w.file := by
  have hfile : ∀ c ∈ w.file, (!CharClass.isBlank c) = true := fun c hc => by
    rw [regular.file c hc]
    rfl
  have hrest : ∀ c ∈ (w.rest ++ after).head?, CharClass.isBlank c = true := by
    intro c hc
    cases hw : w.rest with
    | nil =>
      rw [hw, List.nil_append] at hc
      exact hafter c (List.mem_of_mem_head? hc)
    | cons a rest =>
      rw [hw] at hc
      exact regular.rest c (by rw [hw]; exact hc)
  rw [word, List.takeWhile_append_of_pos hfile]
  cases htext : w.rest ++ after with
  | nil => rw [List.takeWhile_nil, List.append_nil]
  | cons a rest =>
    rw [List.takeWhile_cons_of_neg (by rw [hrest a (by rw [htext]; rfl)]; simp), List.append_nil]

/-- **The location that is found is the one that the report was worded with.** -/
theorem Regular.location?_text (regular : w.Regular)
    (hbefore : ∀ c ∈ before, CharClass.isBlank c = true)
    (hafter : ∀ c ∈ after, CharClass.isBlank c = true) :
    location? (before ++ (w.text ++ after)) = some ⟨Text.ofNat w.line, w.file⟩ := by
  have hsplit : before ++ (w.text ++ after) =
      before ++ (w.headline ++ '\n' :: List.replicate w.indent ' ') ++
        (lineMark ++
          (Text.ofNat w.line ++ (w.column ++ (fileMark ++ (w.file ++ (w.rest ++ after)))))) := by
    simp [text, place]
  have hword := regular.word_file hafter
  have hne : word (w.file ++ (w.rest ++ after)) ≠ [] := by
    rw [hword]
    exact regular.file_ne_nil
  rw [hsplit, location?_of_locationHere? (regular.not_lineMark_isInfix_front hbefore)
    (locationHere?_lineMark w.line regular.column hne), hword]

/-! ## All parts -/

/-- **Each part of a report comes back as it was**, and the entry document under its path. -/
theorem Regular.read_text (regular : w.Regular)
    (hbefore : ∀ c ∈ before, CharClass.isBlank c = true)
    (hafter : ∀ c ∈ after, CharClass.isBlank c = true) (entry : Option Text) :
    ∃ d, read (before ++ (w.text ++ after)) entry = .ok d ∧ d.text = w.message ∧
      d.line = some (w.line : ℤ) ∧ d.hasLocation = true ∧
      d.file = if Path.name w.file = entryName ∧ entry.getD [] ≠ [] then entry else some w.file := by
  have hlimit : ¬ Digits.limit < (Text.ofNat w.line).length := Nat.not_lt_of_le regular.digits
  have hfile : some (fileOf ⟨Text.ofNat w.line, w.file⟩ entry) =
      if Path.name w.file = entryName ∧ entry.getD [] ≠ [] then entry else some w.file := by
    cases entry with
    | none => simp [fileOf]
    | some path =>
      rw [fileOf_some, Option.getD_some]
      split <;> rfl
  refine ⟨⟨w.message, some (fileOf ⟨Text.ofNat w.line, w.file⟩ entry), some w.line, none⟩, ?_, rfl,
    rfl, rfl, hfile⟩
  simp only [read, regular.location?_text hbefore hafter, hlimit, if_false,
    regular.message_text hbefore hafter, Digits.ofDecimals_ofNat]

/-! ### A report with a trace

The message begins with the mark of an error, too, and ends in what is almost the mark of a
location; a second location follows. -/

def traced : Wording where
  marked := true
  message := "Error: unfinished block on line".toList
  indent := 8
  line := 12
  column := ":3".toList
  file := "lib/stdin".toList
  rest := "\n        on line 7:1 of lib/part".toList

lemma regular_traced : traced.Regular where
  one_line := by
    have hall : traced.message.all (!isLineEnd ·) = true := by decide
    simpa only [List.all_eq_true, Bool.not_eq_true'] using hall
  trimmed := by decide
  no_mark := by decide
  unmarked := by decide
  digits := by decide +kernel
  column := .inr ⟨"3".toList, rfl, by decide, List.all_eq_true.1 (by decide)⟩
  file_ne_nil := by decide
  file := by
    have hall : traced.file.all (!CharClass.isBlank ·) = true := by decide
    simpa only [List.all_eq_true, Bool.not_eq_true'] using hall
  rest := by
    intro c hc
    obtain rfl : '\n' = c := Option.some.inj hc
    decide

theorem read_traced :
    traced.Regular ∧ ∃ d, read ("\n ".toList ++ (traced.text ++ "\n".toList))
      (some "app.scss".toList) = .ok d ∧ d.text = "Error: unfinished block on line".toList ∧
        d.line = some 12 ∧ d.hasLocation = true ∧ d.file = some "app.scss".toList := by
  have hbefore : ∀ c ∈ "\n ".toList, CharClass.isBlank c = true := List.all_eq_true.1 (by decide)
  have hafter : ∀ c ∈ "\n".toList, CharClass.isBlank c = true := List.all_eq_true.1 (by decide)
  refine ⟨regular_traced, ?_⟩
  exact regular_traced.read_text hbefore hafter (some "app.scss".toList)

end Wording

end StyleBuild.Report
