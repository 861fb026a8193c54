import StyleBuild.Proofs.Settings.Complaints
import StyleBuild.Proofs.Settings.Depth

/-!
# Settings in a file and settings by hand

A settings file should be read as the value of its document is (`Settings.ReadsAs`): with the same
settings where there are any, and with a complaint where the document is no mapping.  How a document
is made of a text does not matter for that, so everything here is about an arbitrary reader of
documents (`Settings.ofFileBy`).  Settings files are read with one of them, whatever the depth to
which it unfolds a document, as long as that is two or more (`Settings.ofFileBy_ofText`).

The two ways part at what counts as no settings.  By hand that is null; in a file it is also any
value that says nothing, and any text that is blank.  So a document such as `[]` gives the default
settings from a file and a complaint by hand (`Settings.not_forall_readsAs`), and there are no other
documents of that kind (`Settings.readsAs_iff`).
-/

namespace StyleBuild.Settings

/-! ## The reader of settings files -/

variable {parse : DocumentReader} {path t : Text} {bytes : Bytes} {d : Option Value} {v : Value}

/-- The settings in a document do not depend on what is deeper than two steps. -/
lemma ofDocument_cut (n : ℕ) (path : Text) (v : Value) :
    ofDocument path (v.cut (n + 2)) = ofDocument path v := by
  unfold ofDocument
  rw [Value.isBlank_cut]
  split_ifs
  · rfl
  · cases v with
    | scalar s => rw [Value.cut_scalar]
    | map entries =>
      have hcut := ofValue_cut n (.map entries)
      rw [Value.cut_map] at hcut ⊢
      exact hcut
    | _ => rfl

/-- A reader whose documents are cut at depth two or deeper gives the same settings. -/
lemma ofTextBy_cut {parse' : DocumentReader} {n : ℕ} (path : Text)
    (h : parse' t = (parse t).map (Option.map (Value.cut (n + 2)))) :
    ofTextBy parse' path t = ofTextBy parse path t := by
  rw [ofTextBy, ofTextBy, h]
  rcases parse t with (_ | e) | _ | v
  · rfl
  · rfl
  · rfl
  · exact congrArg (ite _ _) (ofDocument_cut n path v)

/-- **Settings files are read by a reader of documents**, and it does not matter how deep beyond two
steps the documents are unfolded. -/
theorem ofFileBy_ofText {n : ℕ} (h : 2 ≤ n) (path : Text) (content : Option Bytes) :
    ofFileBy (Yaml.ofText n) path content = ofFile path content := by
  rw [ofFile_eq_ofFileBy]
  cases content with
  | none => rfl
  | some bytes =>
    simp only [ofFileBy]
    cases Utf8.decode bytes with
    | error e => rfl
    | ok t =>
      dsimp only
      have hdepth : 2 ≤ depth := by decide
      rw [← ofTextBy_cut path (Yaml.ofText_cut h _), ← ofTextBy_cut path (Yaml.ofText_cut hdepth _)]

/-! ## Files and values -/

/-- A file is read as a value is by hand: with the same settings, and, unless the value is null or a
mapping, with a complaint. -/
structure ReadsAs (r : Except Fault Settings) (v : Value) : Prop where
  same : ∀ s, r = .ok s ↔ ofValue v = .ok s
  rejected : v ≠ .scalar .null → (∀ entries, v ≠ .map entries) → ∃ e, r = .error e ∧ e.IsComplaint

lemma ofFileBy_eq (hdecode : Utf8.decode bytes = .ok t)
    (hparse : parse (normalLineEnds t) = .ok d) :
    ofFileBy parse path (some bytes) =
      if (normalLineEnds t).all CharClass.isBlank then ofValue (.map [])
      else ofDocument path (documentValue d) := by
  simp only [ofFileBy, ofTextBy, hdecode, hparse]

lemma ofValue_map_nil : ofValue (.map []) = .ok default := rfl

/-- By hand, only null and mappings are settings. -/
lemma exists_isComplaint_of_ofValue (hnull : v ≠ .scalar .null)
    (hmap : ∀ entries, v ≠ .map entries) :
    ∃ e, ofValue v = .error e ∧ e.IsComplaint := by
  unfold ofValue
  split
  · exact absurd rfl hnull
  · next entries => exact absurd rfl (hmap entries)
  · exact ⟨_, rfl, _, _, rfl⟩

/-- Of the values that say nothing, null and the empty mapping give the default settings by hand. -/
lemma ofValue_eq_default_iff (h : v.isBlank) :
    ofValue v = .ok default ↔ v = .scalar .null ∨ v = .map [] := by
  constructor
  · intro hdefault
    by_contra hother
    rw [not_or] at hother
    have hmap : ∀ entries, v ≠ .map entries := by
      rintro entries rfl
      exact hother.2 (congrArg Value.map (List.isEmpty_iff.1 h))
    obtain ⟨e, he, -⟩ := exists_isComplaint_of_ofValue hother.1 hmap
    rw [hdefault] at he
    cases he
  · rintro (rfl | rfl) <;> rfl

/-- What is taken for no settings at all is read as the values that are no settings by hand. -/
lemma readsAs_nothing_iff : ReadsAs (ofValue (.map [])) v ↔ ofValue v = .ok default := by
  constructor
  · intro h
    exact (h.same default).1 ofValue_map_nil
  · intro h
    refine ⟨fun s => by rw [ofValue_map_nil, h], fun hnull hmap => ?_⟩
    obtain ⟨e, he, -⟩ := exists_isComplaint_of_ofValue hnull hmap
    rw [h] at he
    cases he

/-- A value that says something is read from a document as it is by hand. -/
lemma readsAs_ofDocument (h : ¬ v.isBlank) : ReadsAs (ofDocument path v) v := by
  unfold ofDocument
  rw [if_neg h]
  split
  · next entries => exact ⟨fun s => Iff.rfl, fun _ hmap => absurd rfl (hmap entries)⟩
  · next hmap =>
    have hnull : v ≠ .scalar .null := by
      rintro rfl
      exact h rfl
    obtain ⟨e, he, -⟩ := exists_isComplaint_of_ofValue hnull hmap
    refine ⟨fun s => ?_, fun _ _ => ⟨_, rfl, _, _, rfl⟩⟩
    rw [he]
    exact iff_of_false nofun nofun

/-- **A file is read as its document is by hand, unless one of the two is taken for no settings.**
The document must not be a value that says nothing, other than null and the empty mapping; and where
the text is blank, the document must give the default settings.  Settings files themselves are read
in this way, by any reader that unfolds documents to depth two or more. -/
theorem readsAs_iff (parse : DocumentReader) (path : Text) {bytes : Bytes} {t : Text}
    {d : Option Value} (hdecode : Utf8.decode bytes = .ok t)
    (hparse : parse (normalLineEnds t) = .ok d) :
    (ReadsAs (ofFileBy parse path (some bytes)) (documentValue d) ↔
      ((documentValue d).isBlank → documentValue d = .scalar .null ∨ documentValue d = .map []) ∧
        ((normalLineEnds t).all CharClass.isBlank → ofValue (documentValue d) = .ok default)) ∧
    ∀ n, 2 ≤ n → ofFileBy (Yaml.ofText n) path (some bytes) = ofFile path (some bytes) := by
  refine ⟨?_, fun n hn => ofFileBy_ofText hn path _⟩
  rw [ofFileBy_eq hdecode hparse]
  generalize documentValue d = v
  split_ifs with htext
  · rw [readsAs_nothing_iff, and_iff_right_of_imp]
    · simp [htext]
    · exact fun hdefault hblank => (ofValue_eq_default_iff hblank).1 (hdefault htext)
  · rw [and_iff_left fun h => absurd h htext]
    by_cases hblank : v.isBlank
    · have hnothing : ofDocument path v = ofValue (.map []) := by rw [ofDocument, if_pos hblank]
      rw [hnothing, readsAs_nothing_iff, ofValue_eq_default_iff hblank]
      simp [hblank]
    · exact iff_of_true (readsAs_ofDocument hblank) fun h => absurd h hblank

/-! ### Two documents

A mapping is read as by hand.  An empty list is not: it says nothing, and so it passes for the empty
mapping. -/

/-- A document is known by a check that its value passes. -/
lemma exists_document (r : Except Yaml.Refusal (Option Value)) (check : Value → Bool)
    (h : r.toOption.any fun d => check (documentValue d)) :
    ∃ d, r = .ok d ∧ check (documentValue d) := by
  cases r with
  | error e => cases h
  | ok d => exact ⟨d, rfl, h⟩

theorem readsAs_workers :
    ∃ d, Yaml.ofText depth (normalLineEnds "workers: 2".toList) = .ok d ∧
      (ofValue (documentValue d)).toOption.map workers = some 2 ∧
      ReadsAs (ofFileBy (Yaml.ofText depth) "sass.yaml".toList
        (some (Utf8.encode "workers: 2".toList))) (documentValue d) := by
  have hdecode : Utf8.decode (Utf8.encode "workers: 2".toList) = .ok "workers: 2".toList := by
    decide +kernel
  obtain ⟨d, hparse, hcheck⟩ :=
    exists_document (Yaml.ofText depth (normalLineEnds "workers: 2".toList))
      (fun v => !v.isBlank && (ofValue v).toOption.map workers == some 2) (by decide +kernel)
  rw [Bool.and_eq_true, Bool.not_eq_true', beq_iff_eq] at hcheck
  refine ⟨d, hparse, hcheck.2, (readsAs_iff _ _ hdecode hparse).1.2 ⟨fun hblank => ?_, ?_⟩⟩
  · rw [hcheck.1] at hblank
    cases hblank
  · exact fun htext => absurd htext (by decide)

/-- A list is settings in a file, if it is empty. -/
theorem not_forall_readsAs :
    ¬ ∀ (path : Text) (bytes : Bytes) (t : Text) (d : Option Value), Utf8.decode bytes = .ok t →
      Yaml.ofText depth (normalLineEnds t) = .ok d → ReadsAs (ofFile path (some bytes))
        (documentValue d) := by
  intro h
  have hdecode : Utf8.decode (Utf8.encode "[]".toList) = .ok "[]".toList := by decide +kernel
  obtain ⟨d, hparse, hcheck⟩ := exists_document (Yaml.ofText depth (normalLineEnds "[]".toList))
    (fun v => v.isBlank && v.kind == "list".toList) (by decide +kernel)
  rw [Bool.and_eq_true, beq_iff_eq] at hcheck
  obtain ⟨hblank, hkind⟩ := hcheck
  have hread := h "sass.yaml".toList _ _ _ hdecode hparse
  rw [ofFile_eq_ofFileBy, ofFileBy_eq hdecode hparse, if_neg (by decide), ofDocument,
    if_pos hblank] at hread
  rcases (ofValue_eq_default_iff hblank).1 (readsAs_nothing_iff.1 hread) with heq | heq
  all_goals
    rw [heq] at hkind
    exact absurd hkind (by decide)

end StyleBuild.Settings
