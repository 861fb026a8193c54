import StyleBuild.Text.Basic

/-!
# Log levels

How serious a message is, as a number, and which level holds for which channel.  Channels are named
by dotted paths.  Only the build step's own channel has a level of its own, and it holds for all
channels below that one; every other channel has the level of the root.
-/

namespace StyleBuild

/-- How serious a message is. -/
inductive Level
  | debug
  | info
  | warning
  | error
  | critical
  deriving DecidableEq, Repr

namespace Level

def severity : Level → Int
  | debug => 10
  | info => 20
  | warning => 30
  | error => 40
  | critical => 50

def name : Level → Text
  | debug => "DEBUG".toList
  | info => "INFO".toList
  | warning => "WARNING".toList
  | error => "ERROR".toList
  | critical => "CRITICAL".toList

/-- The severity from which on the root shows messages. -/
def root : Int := warning.severity

end Level

/-- The severities from which on messages of the step's channel are shown: by the channel, and by
what writes them out. -/
structure Verbosity where
  channel : Int
  handler : Int
  deriving DecidableEq, Repr

namespace Verbosity

/-- Both parts at one level. -/
def uniform (severity : Int) : Verbosity := ⟨severity, severity⟩

/-- The level that a channel starts with whenever it is asked for. -/
def usual : Verbosity := uniform Level.info.severity

/-- The level that holds for a channel, where `own` is the step's channel. -/
def effective (v : Verbosity) (own channel : Text) : Int :=
  if channel = own || Text.beginsWith (own ++ ['.']) channel then v.channel else Level.root

end Verbosity

end StyleBuild
