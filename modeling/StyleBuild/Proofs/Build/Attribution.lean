import StyleBuild.Compile.Directive
import StyleBuild.Proofs.Build.Surfacing
import StyleBuild.Proofs.Compile.Reports
import StyleBuild.Proofs.Path.Directory

/-!
# Which document an error is attributed to

An engine reports that something is wrong on a line of a document, and it calls that document
`stdin` if it is the entry document, and by the key that it was given under if it is a module.  On
the way out of a compilation, the path of the target is put in the place of the first name, and the
second one is kept.  `Target.FailsAt` says which file and line come out.

The line is always the right one (`Engine.failsAt_wording`), but the file is not.

* The path is put in without the separators in front, so it has to begin with something else.
* Only the last segment of a name is compared with `stdin`, so the path of the target also takes
  the place of a module with this name in a directory.
* A name is read up to its first blank, so no module with a blank in its key is named.

`Engine.failsAt_iff` says that nothing else goes wrong, and `Engine.not_forall_failsAt` is a module
`lib/stdin` whose mistake is attributed to the stylesheet that imports it.
-/

namespace StyleBuild

/-- Changing the failure of a dialogue changes the result, and nothing else. -/
lemma Dialogue.run_mapFailure {α : Type} {i : Importer} (change : Failure → Failure)
    (d : Dialogue α) (s : Session) :
    (d.mapFailure change).run i s = ((d.run i s).1.mapError change, (d.run i s).2) := by
  induction d generalizing s with
  | done a => rfl
  | fail f => rfl
  | ask specifier previous resume ih =>
    rw [mapFailure, run_ask, run_ask, ih]

/-- The compilation of a target fails with a diagnosis of that target, at a line of a file. -/
def Target.FailsAt (t : Target) (registry : Registry) (settings : Settings) (compiler : Compiler)
    (ledger : Ledger) (file : Text) (line : ℕ) : Prop :=
  ∃ f d, (t.render registry settings compiler ledger).1 = .error f ∧ f.fault = .diagnosed d ∧
    d.file = some file ∧ d.line = some (line : ℤ) ∧ d.target = some t.path

namespace Engine

variable {engine : Engine} {t : Target} {registry : Registry} {settings : Settings}
  {ledger : Ledger} {content message text file : Text} {f : Failure} {session : Session}
  {n line : ℕ}

/-- The engine's name for the entry document is replaced by the path without the separators in
front. -/
lemma entryPath_request : entryPath (t.request settings content) = Path.stripFront t.path := by
  rw [entryPath, Target.request, Target.rootPath, Path.stripFront_cons_separator,
    Path.stripFront_stripFront]

/-- A compilation without refusals fails at a place exactly when that can be read out of the
report. -/
lemma failsAt_iff_read (htext : t.text? = .ok content)
    (hrun : (engine (t.request settings content)).run ⟨registry, settings, t⟩
      (.start ledger [.request (t.request settings content)]) = (.error f, session))
    (unrefused : session.memory.refusals = []) (report : f.fault = .report text) :
    t.FailsAt registry settings engine.compiler ledger file line ↔
      ∃ d, Report.read text (some (Path.stripFront t.path)) = .ok d ∧ d.file = some file ∧
        d.line = some (line : ℤ) := by
  have hrender : (t.render registry settings engine.compiler ledger).1 =
      .error (t.surface [] (readFailure (t.request settings content) f)) := by
    rw [Target.render_of_text? htext (Dialogue.run_mapFailure _ _ _), hrun, unrefused]
    rfl
  unfold Target.FailsAt
  rw [hrender]
  cases hread : Report.read text (some (Path.stripFront t.path)) with
  | error e =>
    -- A number with too many digits comes out as what it is.
    have hdiagnosis := Report.diagnosis?_of_read hread
    have hfailure : readFailure (t.request settings content) f = .ofFault e := by
      simp only [readFailure, report, entryPath_request, hread]
    have hsame : t.surface [] (.ofFault e) = .ofFault e := by
      simp only [Target.surface, Failure.ofFault, Failure.fault, hdiagnosis]
    rw [hfailure, hsame]
    refine iff_of_false ?_ ?_
    · rintro ⟨g, d, hg, hfault, -⟩
      obtain rfl := Except.error.inj hg
      have he : e = .diagnosed d := hfault
      rw [he] at hdiagnosis
      cases hdiagnosis
    · rintro ⟨d, hd, -⟩
      cases hd
  | ok d =>
    have hfailure : readFailure (t.request settings content) f =
        .raisedFrom ⟨.diagnosed d, none⟩ f := by
      simp only [readFailure, report, entryPath_request, hread]
    have hfault := Target.fault_surface_nil (t := t)
      (f := .raisedFrom ⟨.diagnosed d, none⟩ f) (d := d) rfl
    rw [hfailure]
    constructor
    · rintro ⟨g, d', hg, hfault', hfile, hline, -⟩
      obtain rfl := Except.error.inj hg
      have hd : d.forTarget t.path = d' :=
        Problem.compiler.inj (Fault.problem.inj (hfault.symm.trans hfault'))
      rw [← hd] at hfile hline
      exact ⟨d, rfl, hfile, hline⟩
    · rintro ⟨d', hd, hfile, hline⟩
      obtain rfl := Except.ok.inj hd
      exact ⟨_, _, rfl, hfault, hfile, hline, rfl⟩

/-- **Where a report comes out.**  The line is the one of the report, and so is the file up to its
first blank, unless its last segment is taken for the entry document. -/
theorem failsAt_wording (htext : t.text? = .ok content)
    (hrun : (engine (t.request settings content)).run ⟨registry, settings, t⟩
      (.start ledger [.request (t.request settings content)]) = (.error f, session))
    (unrefused : session.memory.refusals = [])
    {name : Text} (report : f.fault = .report (Report.wording message n name))
    (hmessage : ¬ Report.lineMark <:+: message) (hn : (Text.ofNat n).length ≤ Digits.limit)
    (hname : Report.word name ≠ []) :
    t.FailsAt registry settings engine.compiler ledger file line ↔
      file = (if Path.name (Report.word name) = Report.entryName ∧ Path.stripFront t.path ≠ []
        then Path.stripFront t.path else Report.word name) ∧ line = n := by
  rw [failsAt_iff_read htext hrun unrefused report, Report.read_wording hmessage hn hname,
    Report.fileOf_some]
  constructor
  · rintro ⟨d, hd, hfile, hline⟩
    obtain rfl := Except.ok.inj hd
    exact ⟨(Option.some.inj hfile).symm, (Int.ofNat_inj.1 (Option.some.inj hline)).symm⟩
  · rintro ⟨rfl, rfl⟩
    exact ⟨_, rfl, rfl, rfl⟩

/-- **Which errors are attributed to the right document.**

* Whatever the name is, the line and the target are right, unless the name begins with a blank.
* An error in the entry document is attributed to it exactly when the path of the target is not
  empty and does not begin with a separator.
* An error in a module is, if its key has no blank, exactly when the key does not end in a segment
  `stdin`, or the path that would take the place of it is empty or the key itself.
* If the key of the module has a blank, no error is attributed to it but by the coincidence that it
  is the path of the entry document. -/
theorem failsAt_iff (htext : t.text? = .ok content)
    (hrun : (engine (t.request settings content)).run ⟨registry, settings, t⟩
      (.start ledger [.request (t.request settings content)]) = (.error f, session))
    (unrefused : session.memory.refusals = [])
    {name : Text} (report : f.fault = .report (Report.wording message n name))
    (hmessage : ¬ Report.lineMark <:+: message) (hn : (Text.ofNat n).length ≤ Digits.limit) :
    (Report.word name ≠ [] →
      ∃ file, t.FailsAt registry settings engine.compiler ledger file n) ∧
    (name = Report.entryName →
      (t.FailsAt registry settings engine.compiler ledger t.path n ↔
        t.path ≠ [] ∧ t.path.head? ≠ some Path.separator)) ∧
    (name ≠ [] → name ≠ Report.entryName → (∀ c ∈ name, CharClass.isBlank c = false) →
      (t.FailsAt registry settings engine.compiler ledger name n ↔
        (Path.name name = Report.entryName →
          Path.stripFront t.path = [] ∨ Path.stripFront t.path = name))) ∧
    ((∃ c ∈ name, CharClass.isBlank c = true) →
      t.FailsAt registry settings engine.compiler ledger name n →
        Path.stripFront t.path = name) := by
  refine ⟨?_, ?_, ?_, ?_⟩
  · intro hname
    exact ⟨_, (failsAt_wording htext hrun unrefused report hmessage hn hname).2 ⟨rfl, rfl⟩⟩
  · rintro rfl
    rw [failsAt_wording htext hrun unrefused report hmessage hn (by decide)]
    have hword : Report.word Report.entryName = Report.entryName := by decide
    have hentry : Path.name Report.entryName = Report.entryName := by decide
    rw [hword, hentry]
    by_cases hstrip : Path.stripFront t.path = []
    · -- The path has nothing but separators.
      rw [if_neg (not_and_not_right.2 fun _ => hstrip)]
      refine iff_of_false ?_ ?_
      · rintro ⟨hpath, -⟩
        rw [hpath] at hstrip
        exact absurd hstrip (by decide)
      · rintro ⟨hne, hhead⟩
        rw [Path.stripFront_of_head?_ne hhead] at hstrip
        exact hne hstrip
    · have hne : t.path ≠ [] := fun hnil => hstrip (by rw [hnil]; rfl)
      rw [if_pos ⟨rfl, hstrip⟩, @eq_comm _ t.path, Path.stripFront_eq_self_iff]
      exact ⟨fun h => ⟨hne, h.1⟩, fun h => ⟨h.2, rfl⟩⟩
  · intro hne hother hblank
    have hword : Report.word name = name := Report.word_eq_self hblank
    rw [failsAt_wording htext hrun unrefused report hmessage hn (hword.symm ▸ hne), hword]
    split
    · next h => simp [h.1, h.2, eq_comm]
    · next h => exact iff_of_true ⟨rfl, rfl⟩ fun hlast => .inl (by_contra fun hs => h ⟨hlast, hs⟩)
  · rintro ⟨c, hc, hblank⟩ hfails
    obtain ⟨d, hread, hfile, -⟩ := (failsAt_iff_read htext hrun unrefused report).1 hfails
    rcases Report.isBlank_of_read hread hfile with hpath | hnone
    · exact hpath.symm
    · rw [hnone c hc] at hblank
      cases hblank

end Engine

/-! ### A module called `stdin` in a directory

The page imports a module of the directory `lib`, and something is wrong on its third line.  With
the module `lib/part` all is well, but not with `lib/stdin`. -/

namespace Attribution

def content (name : Text) : Text := "import lib/".toList ++ name

def page (name : Text) : Target :=
  (Target.fresh "app.scss".toList (Utf8.encode (content name)) false).load

def part (name : Text) : Target :=
  (Target.fresh ("lib/".toList ++ name ++ ".scss".toList)
    (Utf8.encode ("rawerror Error: boom\\non line 3 of lib/".toList ++ name)) true).load

def registry (name : Text) : Registry where
  entries := [("app".toList, page name), ("lib/".toList ++ name, part name)]
  nodup := by simp

/-- How the engine ends when it compiles the page. -/
def ending (name : Text) : Except Failure Bytes × Session :=
  (Directive.engine ((page name).request .default (content name))).run
    ⟨registry name, .default, page name⟩
    (.start ⟨.empty, .empty⟩ [.request ((page name).request .default (content name))])

/-- What the engine reports. -/
def report (name : Text) : Failure :=
  .ofFault (.report (Report.wording "boom".toList 3 ("lib/".toList ++ name)))

/-- The module was handed out, no import was refused, and the engine ends with its report. -/
lemma ending_eq : ∀ name ∈ ["part".toList, "stdin".toList],
    (page name).text? = .ok (content name) ∧ (ending name).1 = .error (report name) ∧
      (ending name).2.memory = ⟨["lib/".toList ++ name], []⟩ := by
  decide +kernel

end Attribution

namespace Engine

theorem failsAt_part :
    (Attribution.page "part".toList).FailsAt (Attribution.registry "part".toList) .default
      Directive.engine.compiler ⟨.empty, .empty⟩ "lib/part".toList 3 := by
  obtain ⟨htext, hends, hmemory⟩ := Attribution.ending_eq "part".toList (by simp)
  have unrefused : (Attribution.ending "part".toList).2.memory.refusals = [] := by rw [hmemory]
  obtain ⟨-, -, hmodule, -⟩ := failsAt_iff htext (Prod.ext hends rfl) unrefused rfl
    (by decide) (by decide +kernel)
  have hblank : "lib/part".toList.all (!CharClass.isBlank ·) = true := by decide
  refine (hmodule (by decide) (by decide) (by simpa using hblank)).2 fun hname => ?_
  exact absurd hname (by decide)

/-- **Errors in modules are not attributed to them in general.** -/
theorem not_forall_failsAt :
    ¬ ∀ (engine : Engine) (s : Settings) (ts : List Target) (r : Registry),
      Registry.build s ts = .ok r → ∀ t ∈ ts, ∀ content, t.text? = .ok content →
        ∀ ledger f session, (engine (t.request s content)).run ⟨r, s, t⟩
          (.start ledger [.request (t.request s content)]) = (.error f, session) →
        session.memory.refusals = [] → ∀ message n name,
          f.fault = .report (Report.wording message n name) →
          (∀ c ∈ message, Report.isLineEnd c = false) → ¬ Report.lineMark <:+: message →
          (Text.ofNat n).length ≤ Digits.limit →
          (name = Report.entryName → t.FailsAt r s engine.compiler ledger t.path n) ∧
          (name ∈ session.memory.issued → name ≠ [] → name ≠ Report.entryName →
            t.FailsAt r s engine.compiler ledger name n) := by
  intro h
  obtain ⟨htext, hends, hmemory⟩ := Attribution.ending_eq "stdin".toList (by simp)
  have unrefused : (Attribution.ending "stdin".toList).2.memory.refusals = [] := by rw [hmemory]
  have hissued : "lib/stdin".toList ∈ (Attribution.ending "stdin".toList).2.memory.issued := by
    rw [hmemory]
    exact List.mem_singleton_self _
  have hlines : "boom".toList.all (!Report.isLineEnd ·) = true := by decide
  have hmark : ¬ Report.lineMark <:+: "boom".toList := by decide
  have hdigits : (Text.ofNat 3).length ≤ Digits.limit := by decide +kernel
  have hfails := (h Directive.engine .default
    [Attribution.page "stdin".toList, Attribution.part "stdin".toList]
    (Attribution.registry "stdin".toList) rfl _ List.mem_cons_self _ htext _ _ _
    (Prod.ext hends rfl) unrefused _ _ _ rfl (by simpa using hlines) hmark hdigits).2 hissued
    (by decide) (by decide)
  rw [failsAt_wording htext (Prod.ext hends rfl) unrefused rfl hmark hdigits (by decide)] at hfails
  exact absurd hfails.1 (by decide)

end Engine

end StyleBuild
