import StyleBuild.Build.Pass
import StyleBuild.Settings.Reader

/-!
# The build step

The step that a host runs: the raw settings are read first, so that a mistake in them is found
before anything else is touched, and then a pass is made over the context.
-/

namespace StyleBuild.Step

/-- The message with which a pass begins. -/
def opening (s : Settings) : Event :=
  .log .debug ("Running sass step (module base ".toList ++ Text.quoted s.moduleBase ++
    ", ".toList ++ Text.ofNat s.aliases.size ++ " aliases, ".toList ++
    Text.ofNat s.replace.size ++ " replacements)".toList)

/-- Reads the settings and makes a pass. -/
def runWith (raw : Value) (compiler : Compiler) (declines : Text → Bool) (timing : Timing)
    (c : Context) : Outcome :=
  match Settings.ofValue raw with
  | .error e => ⟨.error (.ofFault e), c, []⟩
  | .ok settings =>
    let outcome := Pass.run ⟨settings, compiler, declines, timing⟩ c
    { outcome with journal := opening settings :: outcome.journal }

/-- The step of a host that does one thing after the other, and renders the targets in some
order. -/
def run (raw : Value) (compiler : Compiler) (declines : Text → Bool)
    (arrange : List Target → List Target) (c : Context) : Outcome :=
  runWith raw compiler declines (.oneByOne arrange) c

end StyleBuild.Step
