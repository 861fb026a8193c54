import StyleBuild.Failure.Basic
import StyleBuild.Module.Importer

/-!
# Compilers as dialogues

A compiler is given a stylesheet and talks to an importer while it works: it asks for a module, and
what it does next depends on the answer.  A `Dialogue` is that behaviour as a tree.  It ends with a
result or a failure, or it asks and has one continuation for each answer, also for the answer that
an import failed, which a compiler may pass on, replace, or swallow.

Since the tree is a value, a compiler is a function of the request, and every statement about all
compilers is a statement about all such functions.
-/

namespace StyleBuild

/-- A conversation with an importer that ends with an `α` or a failure. -/
inductive Dialogue (α : Type)
  | done (a : α)
  | fail (f : Failure)
  | ask (specifier : Text) (previous : Option Text) (resume : Except Failure Source → Dialogue α)

namespace Dialogue

variable {α β : Type}

/-- Goes on after a dialogue that ended with a result. -/
def andThen (d : Dialogue α) (f : α → Dialogue β) : Dialogue β :=
  match d with
  | done a => f a
  | fail e => fail e
  | ask specifier previous resume =>
    ask specifier previous fun answer => (resume answer).andThen f

instance : Monad Dialogue where
  pure := done
  bind := andThen

/-- Changes the failure that a dialogue ends with. -/
def mapFailure (f : Failure → Failure) : Dialogue α → Dialogue α
  | done a => done a
  | fail e => fail (f e)
  | ask specifier previous resume =>
    ask specifier previous fun answer => (resume answer).mapFailure f

end Dialogue

/-- What a compiler is asked to do. -/
structure Request where
  content : Text
  /-- The name of the entry document. -/
  rootPath : Text
  includePaths : List Text
  indented : Bool
  outputStyle : OutputStyle
  deriving DecidableEq, Repr

/-- Turns a stylesheet into its compiled form. -/
abbrev Compiler := Request → Dialogue Bytes

end StyleBuild
