import StyleBuild.Proofs.Compile.Questions
import StyleBuild.Proofs.Module.Chaining
import StyleBuild.Proofs.Module.Spelling

/-!
# The address of a module

A module is registered under its key: the base is cut off its path, and then the extension.  To get
at the module, the specifier of an import has to come out as that key, and a specifier is treated in
another way: an extension is taken off, markers are followed, and two tables are applied.

The two ways meet for one specifier of each module, its path with the base cut off and a separator
in front (`Target.address`).  The separator hides whatever looks like a marker, and neither makes an
extension nor loses one, so what is left for the tables is the key.  If no entry matches the key
(`Settings.Spares`), the address means the module (`resolveImport_address`), in every directory.

So every module that can be read can be imported: `ask_address` says what an importer answers, and
what is recorded, in whatever state it is.
-/

namespace StyleBuild

/-- A specifier that means the target whatever the directory is. -/
def Target.address (t : Target) (s : Settings) : Text := Path.separator :: s.modulePath t.path

namespace Settings

variable {s : Settings} {key : Text}

/-- No entry of the tables matches the key: it neither is an alias nor is below one, and does not
begin with what is replaced. -/
structure Spares (s : Settings) (key : Text) : Prop where
  aliases : ∀ e ∈ s.aliases.entries, key ≠ e.1 ∧ ¬ Path.Below e.1 key
  replace : ∀ e ∈ s.replace.entries, ¬ e.1 <+: key

lemma Spares.rest?_eq_none (spares : s.Spares key) {r : Rule} (h : r ∈ s.rules) :
    r.rest? key = none := by
  rw [rules, List.mem_append, List.mem_map, List.mem_map] at h
  rcases h with ⟨e, he, rfl⟩ | ⟨e, he, rfl⟩
  · obtain ⟨hself, hbelow⟩ := spares.aliases e he
    have hafter : Text.after? (e.1 ++ [Path.separator]) key = none := by
      refine Text.after?_eq_none_iff.2 ?_
      rintro ⟨rest, rfl⟩
      exact hbelow ⟨rest, (List.append_assoc _ _ _)⟩
    simp [Rule.rest?, hself, hafter]
  · exact Text.after?_eq_none_iff.2 (spares.replace e he)

/-- **A key that no entry matches is not changed by the tables.** -/
theorem Spares.substitute_eq (spares : s.Spares key) : s.substitute key = key := by
  rw [substitute_eq_all]
  exact Rule.all_of_rest?_eq_none fun r => spares.rest?_eq_none

/-- **The address of a target means its key**, in every directory. -/
theorem resolveImport_address {t : Target} (spares : s.Spares (s.moduleKey t.path))
    (directory : Text) : s.resolveImport (t.address s) directory = s.moduleKey t.path := by
  have hkey : Path.stripFront (s.moduleKey t.path) = s.moduleKey t.path :=
    Path.stripFront_of_head?_ne (s.head?_moduleKey t.path)
  calc s.resolveImport (t.address s) directory
      = Path.stripFront (s.substitute (Path.stripFront (s.moduleKey t.path))) := by
        rw [resolveImport, Target.address, Specifier.settle_separator_cons,
          Path.stripFront_cons_separator, moduleKey]
    _ = s.moduleKey t.path := by rw [hkey, spares.substitute_eq, hkey]

end Settings

namespace Session

/-- **Every module can be imported.**  When the keys are different, there is a registry, and whoever
asks for the address of a readable target that is not indented gets its key and its text.  The
question leaves one record of that target, and nothing else.  It does not matter in which document
the question stands, nor what the importer was asked before. -/
theorem ask_address {s : Settings} {ts : List Target}
    (keys : (ts.map fun t => s.moduleKey t.path).Nodup) :
    ∃ r, Registry.build s ts = .ok r ∧ ∀ u ∈ ts, u.isIndented = false →
      ∀ content text, u.content = some content → Utf8.decode content = .ok text →
        s.Spares (s.moduleKey u.path) →
          ∀ (parent : Target) (session : Session) (previous : Option Text),
            (session.ask ⟨r, s, parent⟩ (u.address s) previous).1 =
                .ok ⟨s.moduleKey u.path, text⟩ ∧
              RecordsOne session (session.ask ⟨r, s, parent⟩ (u.address s) previous).2
                parent.path u.path (s.moduleKey u.path) := by
  obtain ⟨r, built⟩ := Registry.exists_build_iff.2 keys
  refine ⟨r, built, ?_⟩
  intro u hu importable content text hcontent hdecode spares parent session previous
  have hresolve : Importer.resolve ⟨r, s, parent⟩ session.memory (u.address s) previous =
      s.moduleKey u.path := Settings.resolveImport_address spares _
  have hfind : r.find? (Importer.resolve ⟨r, s, parent⟩ session.memory (u.address s) previous) =
      some u := by
    rw [hresolve]
    exact (Registry.find?_build_iff built).2 ⟨hu, rfl⟩
  have htext : u.text? = .ok text := by
    rw [Target.text?, Target.content?, hcontent]
    simp only [hdecode]
    rfl
  cases ask_cases ⟨r, s, parent⟩ session (u.address s) previous with
  | refused f none answer same =>
    rw [none u hfind] at importable
    cases importable
  | unreadable t e find _ unread answer ledger memory =>
    obtain rfl := Option.some.inj (hfind.symm.trans find)
    rw [htext] at unread
    cases unread
  | answered t content' find _ read answer ledger memory =>
    obtain rfl := Option.some.inj (hfind.symm.trans find)
    obtain rfl := Except.ok.inj (htext.symm.trans read)
    rw [hresolve] at answer memory
    exact ⟨answer, recordsOne_of_record ledger memory⟩

end Session

/-! ### A dot-file below a base

The key `libs/.theme.v2` begins with an alias and with what is replaced, but not as the tables mean
it: `lib` is not a segment of it, and `libs/theme` lacks the dot. -/

namespace Address

def settings : Settings :=
  { Settings.default with
    moduleBase := "src".toList
    aliases := ⟨[("lib".toList, "vendor".toList), (".theme.v2".toList, [])], by decide⟩
    replace := ⟨[("libs/theme".toList, "dark".toList)], by decide⟩ }

def theme : Target :=
  (Target.fresh "//src//libs/.theme.v2.scss".toList (Utf8.encode "$ä: 1;".toList) true).load

def page : Target := (Target.fresh "src/page.scss".toList [] false).load

theorem ask_address_theme :
    ([page, theme].map fun t => settings.moduleKey t.path).Nodup ∧ theme.isIndented = false ∧
      Utf8.decode (Utf8.encode "$ä: 1;".toList) = .ok "$ä: 1;".toList ∧
      settings.Spares (settings.moduleKey theme.path) ∧
      ∃ r, Registry.build settings [page, theme] = .ok r ∧
        ∀ (session : Session) (previous : Option Text),
          (session.ask ⟨r, settings, page⟩ "/libs/.theme.v2.scss".toList previous).1 =
              .ok ⟨"libs/.theme.v2".toList, "$ä: 1;".toList⟩ ∧
            Session.RecordsOne session
              (session.ask ⟨r, settings, page⟩ "/libs/.theme.v2.scss".toList previous).2
              "src/page.scss".toList "//src//libs/.theme.v2.scss".toList
              "libs/.theme.v2".toList := by
  have keys : ([page, theme].map fun t => settings.moduleKey t.path).Nodup := by decide
  have importable : theme.isIndented = false := by decide
  have decodes : Utf8.decode (Utf8.encode "$ä: 1;".toList) = .ok "$ä: 1;".toList := by
    decide +kernel
  have spares : settings.Spares (settings.moduleKey theme.path) := ⟨by decide, by decide⟩
  have haddress : theme.address settings = "/libs/.theme.v2.scss".toList := by decide
  have hkey : settings.moduleKey theme.path = "libs/.theme.v2".toList := by decide
  obtain ⟨r, built, hask⟩ := Session.ask_address keys
  refine ⟨keys, importable, decodes, spares, r, built, fun session previous => ?_⟩
  have himport := hask theme (List.mem_cons_of_mem _ List.mem_cons_self) importable _ _ rfl decodes
    spares page session previous
  rw [haddress, hkey] at himport
  exact himport

end Address

end StyleBuild
