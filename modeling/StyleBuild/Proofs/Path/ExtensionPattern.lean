import StyleBuild.Pattern.Basic
import StyleBuild.Proofs.Path.Directory
import StyleBuild.Proofs.Pattern.Runs

/-!
# The extension as a pattern

`Path.withoutExtension` cuts at the last dot of the last segment.  It can also be said with a
pattern: a dot that something other than a separator stands before, and then anything but dots and
separators up to the end.  `extension` is that pattern, read from its written form, and this file
shows that taking its matches out of a path is taking the extension off.

**One place.**  A match that begins at a dot runs to the end of the path, so there is one place at
most where the pattern matches (`matchAt?_extension`), and there is nothing left in which it could
match again (`erase_extension`).

**Line feeds.**  The end of a text is also the place before a last line feed, so a match might stop
there and leave the line feed behind.  It does not: a line feed may be part of an extension, and the
run of characters takes it before the end is looked for (`run_of_extensionAt`).
-/

namespace StyleBuild

namespace Pattern

/-! ## Taking matches out -/

/-- What is left of a text without the matches of a form that matches no empty text.  Up to `stop`
the characters belong to a match that has been found. -/
def Form.eraseFrom (f : Form) (before : Text) (position stop : ℕ) : Text → Text
  | [] => []
  | c :: rest =>
    if position < stop then f.eraseFrom (c :: before) (position + 1) stop rest
    else match f.matchAt? ⟨before, c :: rest, position⟩ with
      | some m => f.eraseFrom (c :: before) (position + 1) m.reached.position rest
      | none => c :: f.eraseFrom (c :: before) (position + 1) stop rest

/-- A text without the matches of a form. -/
def Form.erase (f : Form) (t : Text) : Text := f.eraseFrom [] 0 0 t

/-- A match that runs to the end leaves nothing. -/
lemma Form.eraseFrom_of_le {f : Form} {before rest : Text} {position stop : ℕ}
    (h : position + rest.length ≤ stop) : f.eraseFrom before position stop rest = [] := by
  induction rest generalizing before position with
  | nil => rfl
  | cons c rest ih =>
    rw [List.length_cons] at h
    rw [eraseFrom, if_pos (by omega)]
    exact ih (by omega)

end Pattern

namespace Path

open Pattern

/-! ## The pattern -/

/-- Any character but a separator. -/
def noSeparator : CharTest := .code 47 true .exact

def dot : CharTest := .code 46 false .exact

/-- Any character but a dot and a separator. -/
def inExtension : CharTest := .set [.code 46, .code 47] true false .exact

/-- A dot after something in the same segment, and the rest of a name without dots. -/
def extension : Pattern where
  source := ['(', '?', '<', '=', '[', '^', '/', ']', ')', '\\', '.', '[', '^', '.', '/', ']', '+',
    '$']
  form := {
    root := .ofList [.behind false 1 (.ofList [.char noSeparator]), .char dot,
      .chars .greedy 1 none inExtension, .anchor .finish]
    least := 2
    beginning := .roomy 2 }
  ofText_source := by rfl

variable {before rest : Text} {q : Place} {m : Memory} {c : Char}

lemma toNat_eq_dot_iff : c.toNat = 46 ↔ c = '.' := Char.toNat_inj (d := '.')

lemma toNat_eq_separator_iff : c.toNat = 47 ↔ c = separator := Char.toNat_inj (d := separator)

lemma passes_noSeparator : noSeparator.passes c = true ↔ c ≠ separator := by
  simp [noSeparator, CharTest.passes, Folding.isCased, toNat_eq_separator_iff]

lemma passes_dot : dot.passes c = true ↔ c = '.' := by
  simp [dot, CharTest.passes, Folding.isCased, toNat_eq_dot_iff]

lemma passes_inExtension : inExtension.passes c = true ↔ c ≠ '.' ∧ c ≠ separator := by
  simp [inExtension, CharTest.passes, Members.isCased, Member.isCased, Member.has,
    toNat_eq_dot_iff, toNat_eq_separator_iff]

/-! ## One place -/

/-- The extension of a path begins between two parts of it. -/
structure ExtensionAt (before rest : Text) : Prop where
  segment : before ≠ [] ∧ before.getLast? ≠ some separator
  name : ∃ e, rest = '.' :: e ∧ e ≠ [] ∧ '.' ∉ e ∧ separator ∉ e

/-- **Where the extension begins** is where the path is cut. -/
theorem extensionAt_iff :
    ExtensionAt before rest ↔ rest ≠ [] ∧ withoutExtension (before ++ rest) = before := by
  constructor
  · rintro ⟨⟨hbefore, hlast⟩, e, rfl, he, hdot, hsep⟩
    exact ⟨List.cons_ne_nil _ _, withoutExtension_append_extension he hdot hsep hbefore hlast⟩
  · rintro ⟨hrest, hcut⟩
    have hext : HasExtension (before ++ rest) := by
      by_contra hnone
      rw [withoutExtension_of_not_hasExtension hnone] at hcut
      exact hrest (List.append_right_eq_self.1 hcut)
    obtain ⟨b, e, heq, he, hdot, hsep, hb, hlast⟩ := hext
    obtain rfl : b = before := by
      rw [← hcut, heq, withoutExtension_append_extension he hdot hsep hb hlast]
    exact ⟨⟨hb, hlast⟩, e, List.append_cancel_left heq, he, hdot, hsep⟩

/-- The end is what comes after the run of characters. -/
def toEnd : Continuation := fun q m => if q.satisfies .finish then finished q m else .failed m

/-- In a segment that has begun, the dot and the run of characters come next. -/
lemma run_of_segment (rest : Text) (m : Memory)
    (h : before ≠ [] ∧ before.getLast? ≠ some separator) :
    ∃ m', extension.form.root.run false none (.between before rest) m finished =
      match (Place.between before rest).pass? dot with
      | some q => Chars.run ⟨1, none, inExtension, false⟩ .greedy none q m' toEnd
      | none => .failed m' := by
  obtain ⟨c, b, hbefore⟩ := List.exists_cons_of_ne_nil (List.reverse_ne_nil_iff.2 h.1)
  have hc : noSeparator.passes c = true := by
    refine passes_noSeparator.2 fun heq => h.2 ?_
    rw [← List.head?_reverse, hbefore, heq]
    rfl
  have hplace : (Place.between before rest).before = c :: b := hbefore
  simp only [extension, Node.ofList, List.foldr_cons, List.foldr_nil, Node.run, Node.firstTest,
    Place.back?, hplace, Place.pass?, Place.step?, if_pos hc]
  exact ⟨_, rfl⟩

/-- Where a segment begins, nothing matches. -/
lemma run_of_not_segment (h : ¬ (before ≠ [] ∧ before.getLast? ≠ some separator)) :
    (extension.form.root.run false none (.between before rest) m finished).succeeded = false := by
  cases hbefore : before.reverse with
  | nil =>
    have hplace : (Place.between before rest).before = [] := hbefore
    simp only [extension, Node.ofList, List.foldr_cons, List.foldr_nil, Node.run, Place.back?,
      hplace, Try.failed]
  | cons c b =>
    have hplace : (Place.between before rest).before = c :: b := hbefore
    have hc : ¬ noSeparator.passes c = true := by
      rw [passes_noSeparator]
      have hne_nil : before.reverse ≠ [] := by
        rw [hbefore]
        exact List.cons_ne_nil c b
      refine fun hne => h ⟨List.reverse_ne_nil_iff.1 hne_nil, ?_⟩
      rw [← List.head?_reverse, hbefore]
      simpa using hne
    simp only [extension, Node.ofList, List.foldr_cons, List.foldr_nil, Node.run, Place.back?,
      hplace, Place.pass?, Place.step?, if_neg hc, Try.failed, Bool.false_eq_true, if_false]

/-- **A line feed at the end does not matter.**  What stops the run of characters is no line feed,
so it is still ahead wherever the run may end. -/
lemma not_satisfies_of_passesTo (hc : c ∈ rest) (hstop : ¬ inExtension.passes c = true)
    (h : Place.PassesTo inExtension before rest q) : ¬ q.satisfies .finish = true := by
  obtain ⟨passed, ahead, rfl, hpassed, rfl⟩ := h
  have hahead : c ∈ ahead :=
    (List.mem_append.1 hc).resolve_left fun hmem => hstop (hpassed c hmem)
  rw [Place.satisfies, Bool.or_eq_true, decide_eq_true_eq, decide_eq_true_eq]
  rintro (hend | hfeed)
  · obtain rfl : ahead = [] := hend
    cases hahead
  · obtain rfl : ahead = ['\n'] := hfeed
    obtain rfl := List.mem_singleton.1 hahead
    exact hstop (by decide)

/-- **A match runs to the end.**  A last line feed passes the test like any other character of the
extension, so the run does not stop before it. -/
lemma run_of_extensionAt (m : Memory) (h : ExtensionAt before rest) :
    ∃ m', extension.form.root.run false none (.between before rest) m finished =
      finished (.between (before ++ rest) []) m' := by
  obtain ⟨hsegment, e, rfl, he, hdot, hsep⟩ := h
  obtain ⟨m', hrun⟩ := run_of_segment ('.' :: e) m hsegment
  have hpasses : ∀ c ∈ e, inExtension.passes c = true := fun c hc =>
    passes_inExtension.2 ⟨fun heq => hdot (heq ▸ hc), fun heq => hsep (heq ▸ hc)⟩
  obtain ⟨m'', hgreedy⟩ := Chars.run_greedy_of_passes (r := ⟨1, none, inExtension, false⟩)
    (k := toEnd) (before ++ ['.']) m' rfl (List.length_pos_of_ne_nil he) hpasses fun _ => rfl
  refine ⟨m'', ?_⟩
  rw [hrun, Place.pass?_between, if_pos (passes_dot.2 rfl)]
  refine hgreedy.trans ?_
  rw [List.append_assoc, List.singleton_append]
  rfl

/-- Nothing matches anywhere else. -/
lemma run_of_not_extensionAt (h : ¬ ExtensionAt before rest) :
    (extension.form.root.run false none (.between before rest) m finished).succeeded = false := by
  by_cases hsegment : before ≠ [] ∧ before.getLast? ≠ some separator
  · obtain ⟨m', hrun⟩ := run_of_segment rest m hsegment
    rw [hrun]
    cases rest with
    | nil => rfl
    | cons c e =>
      rw [Place.pass?_between]
      split_ifs with hc
      · obtain rfl := passes_dot.1 hc
        by_cases he : e = []
        · refine Chars.run_greedy_of_length_lt ?_
          rw [he]
          exact Nat.zero_lt_one
        · -- A dot or a separator comes after the dot, and the run cannot pass it.
          obtain ⟨d, hd, hstop⟩ : ∃ d ∈ e, ¬ inExtension.passes d = true := by
            by_contra hall
            push Not at hall
            refine h ⟨hsegment, e, rfl, he, fun hdot => ?_, fun hsep => ?_⟩
            · exact (passes_inExtension.1 (hall _ hdot)).1 rfl
            · exact (passes_inExtension.1 (hall _ hsep)).2 rfl
          refine Chars.run_greedy_failed rfl fun q hq m => ?_
          rw [toEnd, if_neg (not_satisfies_of_passesTo hd hstop hq)]
          rfl
      · rfl
  · exact run_of_not_segment hsegment

/-- **The pattern matches where the extension begins**, and nowhere else, and the match runs to the
end of the path. -/
theorem matchAt?_extension (before rest : Text) :
    (extension.form.matchAt? (.between before rest)).map Memory.reached =
      if rest ≠ [] ∧ withoutExtension (before ++ rest) = before then
        some (.between (before ++ rest) [])
      else none := by
  have hmay : extension.form.mayBegin (.between before rest) = true ↔ 1 ≤ rest.length :=
    Place.hasRoom_iff
  split_ifs with h
  · obtain ⟨m', hrun⟩ := run_of_extensionAt ⟨[], .between before rest⟩ (extensionAt_iff.2 h)
    rw [Form.matchAt?, if_pos (hmay.2 (List.length_pos_of_ne_nil h.1)), hrun]
    rfl
  · rw [← extensionAt_iff] at h
    rw [Form.matchAt?]
    split_ifs
    · simp only [run_of_not_extensionAt h, Bool.false_eq_true, if_false, Option.map_none]
    · rfl

/-! ## Taking the extension out -/

/-- The induction is on what is ahead, as long as the extension has not begun before it. -/
lemma append_eraseFrom_extension (before rest : Text) {stop : ℕ} (hstop : stop ≤ before.length)
    (h : before.length ≤ (withoutExtension (before ++ rest)).length) :
    before ++ extension.form.eraseFrom before.reverse before.length stop rest =
      withoutExtension (before ++ rest) := by
  have hfront : withoutExtension (before ++ rest) <+: before ++ rest := by
    obtain ⟨r, hr⟩ := exists_append_withoutExtension (before ++ rest)
    exact ⟨r, hr.symm⟩
  induction rest generalizing before with
  | nil =>
    rw [List.append_nil] at h hfront ⊢
    rw [Form.eraseFrom, List.append_nil]
    exact (hfront.eq_of_length_le h).symm
  | cons c rest ih =>
    have hmatch := matchAt?_extension before (c :: rest)
    rw [Form.eraseFrom, if_neg (Nat.not_lt.2 hstop)]
    by_cases hcut : withoutExtension (before ++ c :: rest) = before
    · rw [if_pos ⟨List.cons_ne_nil c rest, hcut⟩] at hmatch
      obtain ⟨m, hm, hreached⟩ := Option.map_eq_some_iff.1 hmatch
      rw [Place.between] at hm
      have hend : before.length + 1 + rest.length ≤ m.reached.position := by
        have hposition : m.reached.position = (before ++ c :: rest).length := by
          rw [hreached]
          rfl
        rw [hposition, List.length_append, List.length_cons]
        omega
      rw [hm, hcut]
      exact (congrArg (before ++ ·) (Form.eraseFrom_of_le hend)).trans (List.append_nil before)
    · rw [if_neg fun hboth => hcut hboth.2, Place.between] at hmatch
      rw [Option.map_eq_none_iff.1 hmatch]
      -- The extension begins later, so what has been passed over can grow by a character.
      have hassoc : before ++ c :: rest = before ++ [c] ++ rest := by simp
      have hlength : (before ++ [c]).length = before.length + 1 := List.length_append
      have hbefore : before <+: withoutExtension (before ++ c :: rest) :=
        List.prefix_of_prefix_length_le (List.prefix_append _ _) hfront h
      have hlonger : (before ++ [c]).length ≤ (withoutExtension (before ++ c :: rest)).length := by
        rw [hlength]
        exact Nat.lt_of_le_of_ne h fun heq => hcut (hbefore.eq_of_length heq).symm
      rw [hassoc] at hlonger hfront ⊢
      have hrest := ih (before ++ [c]) (by omega) hlonger hfront
      rw [List.reverse_concat, hlength, List.append_assoc] at hrest
      exact hrest

/-- **Taking the matches of the pattern out of a path takes its extension off.** -/
theorem erase_extension (p : Text) : extension.form.erase p = withoutExtension p :=
  append_eraseFrom_extension [] p (Nat.le_refl 0) (Nat.zero_le _)

/-- **The extension is part of the last segment.**  A directory in front does not matter and stays
as it is, and something is left of every path that is not empty.  A dot and what follows it are
taken off once, exactly when that is neither empty nor has a dot or a separator, and when the dot
does not begin a segment; and this is what the pattern says. -/
theorem withoutExtension_exact :
    (∀ d n : Text, withoutExtension (d ++ separator :: n) = d ++ separator :: withoutExtension n) ∧
    (∀ p : Text, directory (withoutExtension p) = directory p ∧
      (withoutExtension p = [] ↔ p = []) ∧
      (withoutExtension p = p ∨
        ∃ e, p = withoutExtension p ++ '.' :: e ∧ e ≠ [] ∧ '.' ∉ e ∧ separator ∉ e)) ∧
    (∀ before e : Text, withoutExtension (before ++ '.' :: e) = before ↔
      (e ≠ [] ∧ '.' ∉ e ∧ separator ∉ e) ∧ before ≠ [] ∧ before.getLast? ≠ some separator) ∧
    ∀ p : Text, extension.form.erase p = withoutExtension p := by
  refine ⟨withoutExtension_append_separator, fun p => ⟨directory_withoutExtension p,
    withoutExtension_eq_nil_iff, ?_⟩, fun before e => ?_, erase_extension⟩
  · by_cases hext : HasExtension p
    · obtain ⟨b, e, rfl, he, hdot, hsep, hb, hlast⟩ := hext
      rw [withoutExtension_append_extension he hdot hsep hb hlast]
      exact Or.inr ⟨e, rfl, he, hdot, hsep⟩
    · exact Or.inl (withoutExtension_of_not_hasExtension hext)
  · constructor
    · intro hcut
      obtain ⟨hsegment, e', heq, hname⟩ := extensionAt_iff.2 ⟨List.cons_ne_nil '.' e, hcut⟩
      obtain rfl := (List.cons.inj heq).2
      exact ⟨hname, hsegment⟩
    · rintro ⟨⟨he, hdot, hsep⟩, hbefore, hlast⟩
      exact withoutExtension_append_extension he hdot hsep hbefore hlast

/-- A line feed is a character of the extension, also where it is the only one. -/
example : withoutExtension "v1.2/a.b\n".toList = "v1.2/a".toList ∧
    extension.form.erase "v1.2/a.\n".toList = "v1.2/a".toList := by
  decide

end Path

end StyleBuild
