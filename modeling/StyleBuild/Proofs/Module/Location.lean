import StyleBuild.Proofs.Module.Memory
import StyleBuild.Proofs.Settings.Accepted

/-!
# Where a module is

The directory that an import is relative to is found in two ways.  For the entry document the
directory of its path is taken first and the module base is cut off then; for a module that was
imported before, the base and the extension are cut off first, which gives the key, and the
directory of the key is taken then.

The two ways end in the same place (`modulePath_directory_rootPath`), so a module has one directory,
and an import in it means the same module whether it is compiled on its own or imported by another
one (`resolve_rootPath_eq_resolve_moduleKey`).  The module must have a key at all: a target that is
the module base itself has the empty one, and nothing is relative to it.
-/

namespace StyleBuild

/-- **A module has one directory.** -/
theorem modulePath_directory_rootPath {s : Settings} (accepted : s.Accepted) {t : Target}
    (hkey : s.moduleKey t.path ≠ []) :
    s.modulePath (Path.directory t.rootPath) = Path.directory (s.moduleKey t.path) := by
  have hpath := Settings.modulePath_ne_nil hkey
  have hhead := Path.head?_stripFront t.path
  rw [Settings.moduleKey, Path.directory_withoutExtension]
  rw [Settings.modulePath] at hpath
  rw [Settings.modulePath, Settings.modulePath, Target.rootPath,
    Path.stripFront_directory_cons_separator hhead]
  by_cases hbase : s.moduleBase = []
  · simp only [hbase, if_true]
    rw [Path.stripFront_of_head?_ne (Path.head?_directory hhead), Path.stripFront_stripFront]
  · simp only [hbase, if_false] at hpath ⊢
    exact Path.directory_anchored hbase accepted.getLast?_moduleBase hhead hpath

namespace Importer

/-- **Compiled or imported, a module resolves its imports in the same way.**  The first part is
about the two ways to find its directory, the second about importers that have come to any memory:
one that compiles the module, and one that has handed it out. -/
theorem resolve_rootPath_eq_resolve_moduleKey {s : Settings} (accepted : s.Accepted)
    {ts : List Target} {r : Registry} (built : Registry.build s ts = .ok r) {t : Target}
    (hkey : s.moduleKey t.path ≠ []) :
    s.modulePath (Path.directory t.rootPath) = Path.directory (s.moduleKey t.path) ∧
      ∀ (parent : Target) (memory memory' : Memory) (given given' : List Target),
        Reached ⟨r, s, t⟩ memory given → Reached ⟨r, s, parent⟩ memory' given' → t ∈ given' →
        ∀ specifier, resolve ⟨r, s, t⟩ memory specifier (some (rootPath ⟨r, s, t⟩)) =
          resolve ⟨r, s, parent⟩ memory' specifier (some (s.moduleKey t.path)) := by
  have hdirectory := modulePath_directory_rootPath accepted hkey
  refine ⟨hdirectory, ?_⟩
  intro parent memory memory' given given' entry other hgiven specifier
  have hissued : s.moduleKey t.path ∈ memory'.issued :=
    (other.mem_issued_iff built).2 ⟨t, hgiven, rfl⟩
  have hroot : currentDirectory ⟨r, s, t⟩ memory (some (rootPath ⟨r, s, t⟩))
      = Path.directory (s.moduleKey t.path) := by
    rw [currentDirectory_rootPath fun k hk => entry.head?_of_mem_issued built hk]
    exact hdirectory
  rw [resolve, resolve, hroot, currentDirectory_of_mem hkey hissued]

end Importer

/-! ### A module below a base

Two targets below the base `src`; the path of one has repeated separators and a name with two dots.
The other one imports it, and then both resolve `./colors`. -/

namespace Location

def settings : Settings := { Settings.default with moduleBase := ['s', 'r', 'c'] }

/-- The module that is imported. -/
def dark : Target := (Target.fresh "//src//theme//dark.v1.scss".toList [] false).load

/-- The module that imports it. -/
def main : Target := (Target.fresh "src/main.scss".toList [] false).load

def registry : Registry where
  entries := [("theme//dark.v1".toList, dark), ("main".toList, main)]
  nodup := by decide

/-- What the importer of `main` remembers after it has handed out `dark`. -/
def memory : Memory :=
  (Importer.call ⟨registry, settings, main⟩ .empty "/theme//dark.v1.css".toList none).memory

theorem resolve_colors_of_dark :
    settings.Accepted ∧ Registry.build settings [dark, main] = .ok registry ∧
      settings.moduleKey dark.path ≠ [] ∧
      Importer.Reached ⟨registry, settings, main⟩ memory [dark] ∧
      Importer.resolve ⟨registry, settings, dark⟩ .empty "./colors".toList
          (some (Importer.rootPath ⟨registry, settings, dark⟩)) =
        Importer.resolve ⟨registry, settings, main⟩ memory "./colors".toList
          (some (settings.moduleKey dark.path)) := by
  have accepted : settings.Accepted :=
    ⟨.map [(.text "moduleBase".toList, .scalar (.text "src".toList))], rfl⟩
  have built : Registry.build settings [dark, main] = .ok registry := rfl
  have hkey : settings.moduleKey dark.path ≠ [] := by decide
  have hreturned : (Importer.call ⟨registry, settings, main⟩ .empty
      "/theme//dark.v1.css".toList none).returned = some dark := by decide +kernel
  have other : Importer.Reached ⟨registry, settings, main⟩ memory [dark] := by
    have reached := Importer.Reached.call (i := ⟨registry, settings, main⟩)
      "/theme//dark.v1.css".toList none Importer.Reached.fresh
    rw [hreturned] at reached
    exact reached
  have agree := Importer.resolve_rootPath_eq_resolve_moduleKey accepted built hkey
  exact ⟨accepted, built, hkey, other,
    agree.2 main .empty memory [] [dark] Importer.Reached.fresh other List.mem_cons_self _⟩

end Location

end StyleBuild
