import StyleBuild.Compile.Bridge

/-!
# The directive language

A stylesheet language with nothing but imports and errors, to build with where no full engine is at
hand.  A stylesheet is a list of lines; a line is a directive by its first word, and is output as it
is otherwise.

* An empty line, and one that begins with `$`, is nothing.
* `import S` is replaced by the lines of the module that `S` names.
* `try S` does the same, but a refused import leaves the line `missing S`.
* `from P S` imports `S` as if it stood in the document `P`.
* `error M` fails at this line, `rawerror M` fails without a position, `crash M` breaks down.

How failures are worded, and what becomes of a refused import, is the `Dialect`.  Imports may be
nested to a depth of thirty.
-/

namespace StyleBuild.Directive

/-- How an interpreter of the language fails. -/
structure Dialect where
  /-- The name of the entry document. -/
  entry : Request → Text
  /-- An error at a line of a document. -/
  atLine : (message document : Text) → (line : Nat) → Failure
  /-- An error without a position. -/
  raw : Text → Failure
  /-- What an import that was refused fails with. -/
  refused : Failure → Failure

/-- Whether a failure is one that the build step words itself. -/
def isProblem (f : Failure) : Bool :=
  match f.fault with
  | .problem _ => true
  | _ => false

/-- What a line asks for. -/
inductive Line
  | nothing
  | importing (tolerant : Bool) (specifier : Text) (previous : Option Text)
  | error (message : Text)
  | rawError (message : Text)
  | crash (message : Text)
  | output (text : Text)
  deriving DecidableEq, Repr

namespace Line

/-- Reads a line. -/
def ofText (line : Text) : Line :=
  let (word, rest) := Text.cutFirst ' ' line
  let rest := rest.getD []
  if line = [] || line.head? = some '$' then .nothing
  else if word = "import".toList then .importing false rest none
  else if word = "try".toList then .importing true rest none
  else if word = "from".toList then
    let (previous, specifier) := Text.cutFirst ' ' rest
    .importing false (specifier.getD []) (some previous)
  else if word = "error".toList then .error rest
  else if word = "rawerror".toList then .rawError rest
  else if word = "crash".toList then .crash rest
  else .output line

end Line

/-- Renders a document with the given name and content to lines. -/
abbrev Renderer := (document content : Text) → Dialogue (List Text)

/-- Renders one line to the lines that it is replaced by. -/
def renderLine (d : Dialect) (nested : Option Renderer) (document : Text) (number : Nat) :
    Line → Dialogue (List Text)
  | .nothing => pure []
  | .output text => pure [text]
  | .error message => .fail (d.atLine message document number)
  | .rawError message => .fail (d.raw message)
  | .crash message => .fail (.ofFault (.crash message))
  | .importing tolerant specifier previous =>
    match nested with
    | none => .fail (d.atLine "import depth exceeded".toList document number)
    | some render =>
      .ask specifier (some (previous.getD document)) fun
        | .ok source => render source.name source.text
        | .error f =>
          if tolerant && isProblem f then pure ["missing ".toList ++ specifier]
          else if isProblem f then .fail (d.refused f) else .fail f

/-- Renders lines one after the other. -/
def renderLines (d : Dialect) (nested : Option Renderer) (document : Text) :
    (number : Nat) → List Text → Dialogue (List Text)
  | _, [] => pure []
  | number, line :: lines => do
    let here ← renderLine d nested document number (Line.ofText line)
    return here ++ (← renderLines d nested document (number + 1) lines)

/-- Renders a document in which imports may be nested to a given depth. -/
def render (d : Dialect) : (depth : Nat) → Renderer
  | 0, document, content => renderLines d none document 1 (Text.splitOn '\n' content)
  | depth + 1, document, content =>
    renderLines d (some (render d depth)) document 1 (Text.splitOn '\n' content)

/-- How deep imports may be nested. -/
def depthLimit : Nat := 30

/-- Renders the entry document of a request. -/
def compile (d : Dialect) : Compiler := fun r => do
  let lines ← render d depthLimit (d.entry r) r.content
  return Utf8.encode (Text.joinWith ['\n'] lines)

/-! ## Dialects -/

/-- Fails with diagnoses; refused imports pass through as they are. -/
def Dialect.plain : Dialect where
  entry := Request.rootPath
  atLine message document line :=
    .ofFault (.diagnosed ⟨message, some (Path.stripFront document), some line, none⟩)
  raw message := .ofFault (.diagnosed (.plain message))
  refused := id

/-- Like `Dialect.plain`, but puts a diagnosis of its own in the place of a refused import. -/
def Dialect.wrapping : Dialect :=
  { Dialect.plain with
    refused := fun f =>
      .raisedFrom ⟨.diagnosed (.plain (Report.errorMark ++ f.fault.message)), none⟩ f }

/-- A report on an error. -/
def reportOn (message : Text) (place document tail : Text) : Failure :=
  .ofFault (.report (Report.errorMark ++ message ++ "\n        ".toList ++ Report.lineMark ++
    place ++ Report.fileMark ++ document ++ tail))

/-- Turns every backslash with an `n` after it into a line feed. -/
def unescapeLines : Text → Text
  | '\\' :: 'n' :: r => '\n' :: unescapeLines r
  | c :: r => c :: unescapeLines r
  | [] => []

/-- Fails with reports, as an engine does. -/
def Dialect.reporting : Dialect where
  entry _ := Report.entryName
  atLine message document line :=
    reportOn message (Text.ofNat line ++ [':', '1']) document "\n>> x\n".toList
  raw message := .ofFault (.report (unescapeLines message))
  refused := id

/-- The directive language as an engine: whatever the build step words itself leaves it as a report
on the first line of the entry document. -/
def engine : Engine := fun r => (compile .reporting r).mapFailure fun f =>
  if isProblem f then reportOn f.fault.message ['1'] Report.entryName ['\n'] else f

end StyleBuild.Directive
