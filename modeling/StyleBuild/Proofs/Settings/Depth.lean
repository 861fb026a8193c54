import StyleBuild.Proofs.Settings.Accepted
import StyleBuild.Settings.File

/-!
# How deep settings are looked at

The document of a settings file is unfolded to a depth, since it may have itself inside.  No setting
looks that deep: a field is a scalar, a list of scalars, or a mapping to scalars, and whatever has
parts where a scalar belongs is refused for that alone.

`Value.cut` leaves out what lies deeper, in the way in which documents are unfolded
(`Yaml.Making.cut_value`).  Each reader gives the same answer for a value that was cut below what it
looks at, and so raw settings may be cut at depth two (`Settings.ofValue_cut`).
-/

namespace StyleBuild

namespace Value

/-- A value down to a depth.  What has parts below it is given as an empty list. -/
def cut : ℕ → Value → Value
  | _, .scalar s => .scalar s
  | 0, _ => .list []
  | n + 1, .list items => .list (items.map (cut n))
  | n + 1, .map entries => .map (entries.map fun e => (e.1, cut n e.2))
  | _ + 1, .set items => .set items

/-- The entries of a mapping with values that are cut. -/
def cutEntries (n : ℕ) (entries : List (Scalar × Value)) : List (Scalar × Value) :=
  entries.map fun e => (e.1, e.2.cut n)

@[simp] lemma cut_scalar (n : ℕ) (s : Scalar) : (scalar s).cut n = .scalar s := by
  cases n <;> rfl

@[simp] lemma cut_list_nil (n : ℕ) : (list []).cut n = .list [] := by
  cases n <;> rfl

@[simp] lemma cut_map (n : ℕ) (entries : List (Scalar × Value)) :
    (map entries).cut (n + 1) = .map (cutEntries n entries) := by
  rw [cut, cutEntries]

lemma isBlank_cut (n : ℕ) (v : Value) : (v.cut (n + 1)).isBlank = v.isBlank := by
  cases v with
  | scalar s => rw [cut_scalar]
  | list items => simp [cut, isBlank]
  | map entries => simp [isBlank, cutEntries]
  | set items => rfl

lemma find?_cutEntries (n : ℕ) (name : Text) (entries : List (Scalar × Value)) :
    find? name (cutEntries n entries) = (find? name entries).map (cut n) := by
  induction entries with
  | nil => rfl
  | cons e entries ih =>
    obtain ⟨k, v⟩ := e
    rw [cutEntries] at ih
    simp only [cutEntries, List.map_cons, find?, ih]
    split_ifs <;> rfl

end Value

/-! ## Unfolding a document -/

namespace Yaml

/-- **A deeper unfolding only adds what lies deeper.** -/
theorem Making.cut_value {w : Making} {n m : ℕ} (h : n ≤ m) (i : ℕ) :
    (w.value m i).cut n = w.value n i := by
  induction n generalizing m i with
  | zero =>
    cases m with
    | zero =>
      rw [value]
      cases w.scalar? i <;> rfl
    | succ m =>
      rw [value, value]
      cases hs : w.scalar? i with
      | some s => rfl
      | none =>
        split
        · next hsome => cases hsome
        all_goals rfl
  | succ n ih =>
    obtain ⟨m, rfl⟩ := Nat.exists_eq_add_of_lt h
    rw [value, value]
    split <;> simp [Value.cut, ih]

lemma Document.value_cut {n m : ℕ} (h : n ≤ m) (d : Document) :
    d.value n = (d.value m).map (Value.cut n) := by
  rw [value, value]
  rcases (Making.all d).run _ with e | ⟨⟨⟩, w⟩
  · rfl
  · exact congrArg Except.ok (Making.cut_value h d.root).symm

/-- A text that is unfolded less deep has the same document, cut at that depth. -/
lemma ofText_cut {n m : ℕ} (h : n ≤ m) (t : Text) :
    ofText n t = (ofText m t).map (Option.map (Value.cut n)) := by
  unfold ofText
  cases Tokens.ofText t with
  | error e => rfl
  | ok tokens =>
    change (Document.ofTokens tokens >>= _) = Except.map _ (Document.ofTokens tokens >>= _)
    rcases Document.ofTokens tokens with e | _ | d
    · rfl
    · rfl
    · change (d.value n >>= _) = Except.map _ (d.value m >>= _)
      rw [Document.value_cut h]
      cases d.value m <;> rfl

end Yaml

/-! ## Readers -/

namespace Settings

section Fields

variable (place : List Text) (n : ℕ) (v : Value)

/-! Where a scalar belongs, it does not matter what the parts of a value are. -/

lemma readText_cut : readText place (v.cut n) = readText place v := by
  cases v <;> cases n <;> rfl

lemma readDirectory_cut : readDirectory place (v.cut n) = readDirectory place v := by
  rw [readDirectory, readText_cut, readDirectory]

lemma readFlag_cut : readFlag place (v.cut n) = readFlag place v := by
  cases v <;> cases n <;> rfl

lemma readPattern_cut : readPattern place (v.cut n) = readPattern place v := by
  cases v <;> cases n <;> rfl

lemma readRename_cut : readRename place (v.cut n) = readRename place v := by
  cases v <;> cases n <;> rfl

lemma readStyle_cut : readStyle place (v.cut n) = readStyle place v := by
  rw [readStyle, readText_cut, readStyle]

lemma readWorkers_cut : readWorkers place (v.cut n) = readWorkers place v := by
  cases v <;> cases n <;> rfl

/-! Entries of tables and items of lists are scalars, one step deeper. -/

lemma readEntries_cut (entries : List (Scalar × Value)) :
    readEntries place (Value.cutEntries n entries) = readEntries place entries := by
  induction entries with
  | nil => rfl
  | cons e entries ih =>
    obtain ⟨k, v⟩ := e
    rw [Value.cutEntries] at ih
    simp only [Value.cutEntries, List.map_cons, readEntries, readText_cut, ih]

lemma readTable_cut (table : Text) :
    readTable table place (v.cut (n + 1)) = readTable table place v := by
  cases v with
  | map entries => simp only [Value.cut_map, readTable, readEntries_cut]
  | _ => rfl

lemma readPatterns_cut (index : ℕ) (vs : List Value) :
    readPatterns place index (vs.map (Value.cut n)) = readPatterns place index vs := by
  induction vs generalizing index with
  | nil => rfl
  | cons v vs ih => simp only [List.map_cons, readPatterns, readPattern_cut, ih]

lemma readTargets_cut : readTargets place (v.cut (n + 1)) = readTargets place v := by
  cases v with
  | list items => exact readPatterns_cut place n 0 items
  | _ => rfl

end Fields

/-- A field is read as before if its reader does not look at what was left out. -/
lemma field_cut {α : Type} {entries : List (Scalar × Value)} {names : List Text} {absent : α}
    {read : List Text → Value → Reading α} {n : ℕ}
    (h : ∀ place v, read place (v.cut n) = read place v) :
    field (Value.cutEntries n entries) names absent read = field entries names absent read := by
  unfold field
  induction names with
  | nil => rfl
  | cons name names ih =>
    rw [List.findSome?_cons, List.findSome?_cons, Value.find?_cutEntries]
    cases Value.find? name entries with
    | none => exact ih
    | some v => exact h [name] v

/-- **No field has a setting deeper than one step.** -/
theorem readFields_cut (n : ℕ) (entries : List (Scalar × Value)) :
    readFields (Value.cutEntries (n + 1) entries) = readFields entries := by
  unfold readFields
  simp only [field_cut, readDirectory_cut, readTable_cut, readFlag_cut, readTargets_cut,
    readRename_cut, readPattern_cut, readStyle_cut, readWorkers_cut, implies_true]

/-- **Raw settings may be cut at depth two.** -/
theorem ofValue_cut (n : ℕ) (v : Value) : ofValue (v.cut (n + 2)) = ofValue v := by
  cases v with
  | scalar s => rw [Value.cut_scalar]
  | map entries =>
    rw [Value.cut_map]
    unfold ofValue
    simp only [readFields_cut]
  | _ => rfl

end Settings

end StyleBuild
