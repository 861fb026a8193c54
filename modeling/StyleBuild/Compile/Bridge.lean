import StyleBuild.Compile.Dialogue
import StyleBuild.Compile.Report

/-!
# The bridge to the engine

An engine is a compiler that knows nothing of targets: it fails with a report in text.  The bridge
reads that report, and puts the path of the entry document where the report names it.  The error
that comes out was raised from the engine's own.
-/

namespace StyleBuild

/-- Turns a stylesheet into its compiled form, and fails with reports. -/
abbrev Engine := Request → Dialogue Bytes

namespace Engine

/-- The path of the entry document in diagnoses. -/
def entryPath (r : Request) : Text := Path.stripFront r.rootPath

/-- Reads the report that an engine failed with; any other failure passes through. -/
def readFailure (r : Request) (f : Failure) : Failure :=
  match f.fault with
  | .report text =>
    match Report.read text (some (entryPath r)) with
    | .ok d => .raisedFrom ⟨.diagnosed d, none⟩ f
    | .error e => .ofFault e
  | _ => f

/-- The compiler that an engine makes. -/
def compiler (engine : Engine) : Compiler := fun r => (engine r).mapFailure (readFailure r)

end Engine

end StyleBuild
