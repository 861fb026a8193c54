import StyleBuild.Build.Plan
import StyleBuild.Build.Rendering
import StyleBuild.Build.Timing

/-!
# One pass over a context

A pass loads the candidates, registers them as modules, renders the targets to render, puts each
output in the place of its source as soon as it is there, and at the end removes the candidates that
were neither rendered nor imported.

Loading and compiling are given to workers, so what is done when is a parameter (`Setup.timing`).
The pass waits for all of them, also when one of them has failed.

Nothing is undone when something fails.  A failure before the first target is rendered leaves the
context as it was, except that candidates may be loaded: all before the first that cannot be loaded,
and those after it whose loading was begun by then.  A failure while targets are rendered leaves the
outputs that are already there.  From then on no output is put in its place and nothing is pruned,
but compilations that were begun go on, and enter into the ledger what they import.
-/

namespace StyleBuild

/-- What happened to each candidate of a pass. -/
structure Summary where
  /-- Sources and the paths of their outputs. -/
  compiled : Table Text
  /-- Sources that were compiled to nothing. -/
  emptied : List Text
  /-- Targets that were not rendered, but imported. -/
  retained : List Text
  /-- Targets that were neither rendered nor imported. -/
  removed : List Text

/-- Nothing happened. -/
def Summary.empty : Summary := ⟨.empty, [], [], []⟩

/-- What a pass needs besides the context. -/
structure Setup where
  settings : Settings
  compiler : Compiler
  /-- The outputs that the host takes note of without letting the step write them. -/
  declines : Text → Bool
  /-- What the workers do when. -/
  timing : Timing

/-- What a pass has done so far. -/
structure Progress where
  context : Context
  usage : Usage
  summary : Summary
  journal : Journal

/-- What a pass comes to. -/
structure Outcome where
  result : Except Failure Summary
  context : Context
  journal : Journal

/-- A rendering that is under way. -/
structure Rendering where
  progress : Progress
  /-- What the targets came to that were compiled so far. -/
  results : List (Target × Except Failure Bytes)
  /-- The first failure that was taken up. -/
  failure : Option Failure

namespace Pass

/-- Tries to load a target, unless that was cancelled because another one could not be loaded.  The
first fault is kept. -/
def load (timing : Timing) (s : Option Fault × Context) (t : Target) : Option Fault × Context :=
  if s.1.isSome && !timing.loads t then s
  else (s.1 <|> t.loadFailure.map .crash, s.2.adjust t.path Target.attempted)

/-- Loads targets in order. -/
def loadAll (timing : Timing) (c : Context) (ts : List Target) : Option Fault × Context :=
  ts.foldl (load timing) (none, c)

/-- Adds a message to the journal. -/
def note (level : Level) (message : Text) (p : Progress) : Progress :=
  { p with journal := p.journal ++ [.log level message] }

/-- Puts the output of a target in the place of its source; empty output removes the source. -/
def materialise (setup : Setup) (t : Target) (output : Bytes) (p : Progress) : Progress :=
  if output = [] then
    note .info ("Removed ".toList ++ t.path ++ " (compiled to empty output)".toList) { p with
      context := p.context.resolveOutput none [t.path]
      summary := { p.summary with emptied := p.summary.emptied ++ [t.path] } }
  else
    let path := setup.settings.outputPath t.path
    let placed := p.context.resolveOutput (some path) [t.path]
    note .info ("Compiled ".toList ++ t.path ++ " -> ".toList ++ path) { p with
      context := if setup.declines path then placed else placed.adjust path (·.write output)
      summary := { p.summary with compiled := p.summary.compiled.insert t.path path } }

/-- Compiles a target, unless that was cancelled because another one has failed. -/
def compile (setup : Setup) (registry : Registry) (t : Target) (r : Rendering) : Rendering :=
  if r.failure.isSome && !setup.timing.compiles t then r
  else
    let p := r.progress
    let (result, ledger, journal) :=
      t.render registry setup.settings setup.compiler ⟨p.usage, p.context.graph⟩
    { r with
      progress := { p with
        context := { p.context with graph := ledger.graph }
        usage := ledger.usage
        journal := p.journal ++ journal }
      results := (t, result) :: r.results }

/-- Materialises the output of a target, or gives the failure. -/
def conclude (setup : Setup) (t : Target) (result : Except Failure Bytes) (p : Progress) :
    Option Failure × Progress :=
  match result with
  | .ok output => (none, materialise setup t output p)
  | .error f =>
    let message := "Failed to compile ".toList ++ t.path ++ ": ".toList ++ f.fault.message
    (some f, note .error message p)

/-- Takes up what a target was compiled to, unless another one has failed or it was cancelled. -/
def finish (setup : Setup) (t : Target) (r : Rendering) : Rendering :=
  match r.failure, r.results.lookup t with
  | none, some result =>
    let (failure, p) := conclude setup t result r.progress
    { r with progress := p, failure := failure }
  | _, _ => r

/-- One turn of the rendering. -/
def turn (setup : Setup) (registry : Registry) (r : Rendering) : Turn → Rendering
  | .compile t => compile setup registry t r
  | .finish t => finish setup t r

/-- Renders targets.  There are turns for all of them, also after a failure. -/
def render (setup : Setup) (registry : Registry) (ts : List Target) (p : Progress) : Rendering :=
  (setup.timing.schedule ts).turns.foldl (turn setup registry) ⟨p, [], none⟩

/-- Removes the targets that were never imported, and their edges. -/
def prune (candidates : List Target) (p : Progress) : Progress :=
  let (retained, unused) := p.usage.partition Target.path candidates
  let paths := unused.map Target.path
  let p := { p with
    summary := { p.summary with retained := retained.map Target.path, removed := paths } }
  if paths = [] then p
  else
    note .info ("Removed ".toList ++ Text.ofNat paths.length ++
      " unused stylesheet targets".toList) { p with context := p.context.remove paths true }

/-- Renders and prunes, given the loaded candidates and the registry. -/
def execute (setup : Setup) (registry : Registry) (candidates : List Target) (p : Progress) :
    Outcome :=
  match setup.settings.partition? candidates with
  | .error e => ⟨.error (.ofFault e), p.context, p.journal⟩
  | .ok (rendered, pruned) =>
    let r := render setup registry rendered p
    match r.failure with
    | some f => ⟨.error f, r.progress.context, r.progress.journal⟩
    | none =>
      let p := prune pruned r.progress
      ⟨.ok p.summary, p.context, p.journal⟩

/-- Compiles every stylesheet that is to be rendered, and prunes what is not used. -/
def run (setup : Setup) (c : Context) : Outcome :=
  match setup.settings.candidates? c with
  | .error e => ⟨.error (.ofFault e), c, []⟩
  | .ok [] => ⟨.ok .empty, c, [.log .debug "No stylesheet targets to compile".toList]⟩
  | .ok candidates =>
    match loadAll setup.timing c candidates with
    | (some e, c) => ⟨.error (.ofFault e), c, []⟩
    | (none, c) =>
      let candidates := candidates.map Target.load
      match Registry.build setup.settings candidates with
      | .error e => ⟨.error (.ofFault (.problem e)), c, []⟩
      | .ok registry =>
        execute setup registry candidates ⟨c, .empty, .empty, [.log .debug
          ("Registered ".toList ++ Text.ofNat registry.size ++ " stylesheet modules".toList)]⟩

end Pass

end StyleBuild
