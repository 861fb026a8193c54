import StyleBuild.Text.Basic

/-!
# Paths

A path is a text in which `/` separates segments; nothing is looked up in a file system.  Every
function here works on one cut of the path, `cut`, into what ends with the last separator and the
name after it: `cut_append` says that nothing is lost, `separator_not_mem_name` that the name has no
separator.

There are two notions of the extension of a name, and the difference matters.

* `withoutExtension` removes a last `.e` with a non-empty `e` if anything of the name stands before
  the dot.  This makes the key of a module.
* `stem` removes a last `.e`, also with an empty `e`, if the name has a character other than a dot
  before it.  This makes the path of an output.
-/

namespace StyleBuild.Path

/-- What separates the segments of a path. -/
def separator : Char := '/'

/-- Everything through the last separator, and the name after it. -/
def cut : Text → Text × Text
  | [] => ([], [])
  | c :: r =>
    if (cut r).1 = [] ∧ c ≠ separator then ([], c :: (cut r).2) else (c :: (cut r).1, (cut r).2)

/-- The last segment; empty when the path ends with a separator. -/
def name (p : Text) : Text := (cut p).2

/-- Removes the separators in front. -/
def stripFront (p : Text) : Text := p.dropWhile (· = separator)

/-- Removes the separators at the end. -/
def stripBack (p : Text) : Text := Text.dropTrailing (· = separator) p

/-- Removes the separators at both ends. -/
def strip (p : Text) : Text := stripBack (stripFront p)

/-- The directory of a path: what stands before the name, without the separators at its end unless
there is nothing else. -/
def directory (p : Text) : Text :=
  let head := (cut p).1
  if head.all (· = separator) then head else stripBack head

/-- A path relative to a directory; an absolute path stays as it is. -/
def join (directory path : Text) : Text :=
  if path.head? = some separator ∨ directory = [] then path
  else if directory.getLast? = some separator then directory ++ path
  else directory ++ separator :: path

/-- The text before the last dot and the text after it. -/
def cutLastDot? : Text → Option (Text × Text)
  | [] => none
  | c :: r =>
    match cutLastDot? r with
    | some (before, after) => some (c :: before, after)
    | none => if c = '.' then some ([], r) else none

/-- The path without its extension.  A dot that begins the name, or ends it, makes no extension. -/
def withoutExtension (p : Text) : Text :=
  match cutLastDot? (name p) with
  | some (before, after) => if before = [] ∨ after = [] then p else (cut p).1 ++ before
  | none => p

/-- The path without its suffix.  Dots that begin the name make no suffix; a dot that ends it
does. -/
def stem (p : Text) : Text :=
  match cutLastDot? (name p) with
  | some (before, _) => if before.all (· = '.') then p else (cut p).1 ++ before
  | none => p

/-! ## The cut -/

theorem cut_append (p : Text) : (cut p).1 ++ (cut p).2 = p := by
  induction p with
  | nil => rfl
  | cons c r ih =>
    unfold cut
    split
    · next h => simp_all
    · simp [ih]

theorem separator_not_mem_name (p : Text) : separator ∉ name p := by
  unfold name
  induction p with
  | nil => simp [cut]
  | cons c r ih =>
    unfold cut
    split
    · next h => simp [ih, Ne.symm h.2]
    · exact ih

/-- The name of a path without separators is the path. -/
theorem cut_of_not_mem {n : Text} (h : separator ∉ n) : cut n = ([], n) := by
  induction n with
  | nil => rfl
  | cons c r ih =>
    simp only [List.mem_cons, not_or] at h
    simp [cut, ih h.2, Ne.symm h.1]

/-- Cutting after a separator splits at that separator or at a later one. -/
theorem cut_append_separator (d n : Text) (h : separator ∉ n) :
    cut (d ++ separator :: n) = (d ++ [separator], n) := by
  induction d with
  | nil => simp [cut, cut_of_not_mem h]
  | cons c r ih => simp [cut, ih]

end StyleBuild.Path
