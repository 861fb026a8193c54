import StyleBuild.Log.Journal

/-!
# Rendering one target

`Dialogue.run` holds a compiler's dialogue with an importer: it answers every question, enters what
was imported into the ledger, and writes everything down.  `Target.render` does this for one target
and then decides which error comes out of it.

* If no import was refused, a diagnosis of the compiler is attributed to the target.
* If imports were refused, the first refusal comes out, whatever the compiler made of it.
* Anything that is no diagnosis passes through.
-/

namespace StyleBuild

/-- The state of one compilation: what its importer remembers, the ledger that all compilations
share, and what has happened. -/
structure Session where
  memory : Memory
  ledger : Ledger
  journal : Journal

namespace Session

/-- Begins a compilation. -/
def start (ledger : Ledger) (journal : Journal) : Session := ⟨.empty, ledger, journal⟩

/-- The message about a module that was found. -/
def importNote (parent : Text) (specifier : Text) (t : Target) : Event :=
  .log .debug (parent ++ ": ".toList ++ Problem.named specifier ++ " -> ".toList ++ t.path)

/-- Has the importer answer a question. -/
def ask (i : Importer) (s : Session) (specifier : Text) (previous : Option Text) :
    Except Failure Source × Session :=
  let reply := i.call s.memory specifier previous
  let notes := reply.imported.toList.map (importNote i.parent.path specifier)
  let key := match reply.answer with
    | .ok source => some source.name
    | .error _ => none
  (reply.answer, {
    memory := reply.memory
    ledger := reply.enter i.parent.path s.ledger
    journal := s.journal ++ notes ++ [.call specifier previous key] })

end Session

/-- Holds a dialogue with an importer. -/
def Dialogue.run {α : Type} (i : Importer) : Dialogue α → Session → Except Failure α × Session
  | done a, s => (.ok a, s)
  | fail f, s => (.error f, s)
  | ask specifier previous resume, s =>
    let (answer, s) := s.ask i specifier previous
    (resume answer).run i s

namespace Target

/-- What a target is compiled from. -/
def request (s : Settings) (t : Target) (content : Text) : Request where
  content := content
  rootPath := t.rootPath
  includePaths := [Path.directory t.rootPath]
  indented := t.isIndented
  outputStyle := s.outputStyle

/-- The failure that comes out of a compilation. -/
def surface (t : Target) (refusals : List Problem) (f : Failure) : Failure :=
  match f.fault.diagnosis? with
  | none => f
  | some d =>
    match refusals with
    | [] => .raisedFrom ⟨.diagnosed (d.forTarget t.path), none⟩ f
    | first :: _ =>
      if f.raised.refusal = some 0 then f else .raisedFrom ⟨.problem first, some 0⟩ f

/-- Compiles a target, whose content must be loaded. -/
def render (t : Target) (registry : Registry) (settings : Settings) (compiler : Compiler)
    (ledger : Ledger) : Except Failure Bytes × Ledger × Journal :=
  match t.text? with
  | .error e => (.error (.ofFault e), ledger, [])
  | .ok content =>
    let request := t.request settings content
    let (result, session) :=
      (compiler request).run ⟨registry, settings, t⟩ (.start ledger [.request request])
    (result.mapError (t.surface session.memory.refusals), session.ledger, session.journal)

end Target

end StyleBuild
