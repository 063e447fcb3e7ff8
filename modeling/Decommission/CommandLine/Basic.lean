import Decommission.Config.Basic

/-!
# The command line

What the program is told when it is called.  Options go before the settings of a configuration
file; the arguments that an installer passes are kept and never looked at.
-/

namespace Decommission

/-- What the command line says. -/
structure CommandLine where
  config : Option Path := none
  logFile : Option Path := none
  /-- Seconds. -/
  stopTimeout : Option UInt64 := none
  /-- Milliseconds. -/
  pollInterval : Option UInt64 := none
  dryRun : Bool := false
  verbose : Bool := false
  installerArguments : List String := []
  deriving DecidableEq, Repr

namespace CommandLine

/-- The run log for a failure before there is a configuration. -/
def fallbackLogPath (line : CommandLine) : Path := line.logFile.getD Config.defaultLogPath

/-- A configuration with what the command line sets in its place.  A dry run can be asked for and
not be called off. -/
def apply (line : CommandLine) (config : Config) : Config :=
  { config with
    logPath := line.logFile.getD config.logPath
    stopTimeout := line.stopTimeout.getD config.stopTimeout
    pollInterval := line.pollInterval.getD config.pollInterval
    dryRun := config.dryRun || line.dryRun }

def defaultEntryPoint : String := "salt-preinstall"

/-- The name of the program in the run log: the last name of the path it was called by. -/
def entryPoint (called : Option Path) : String :=
  match called.bind Path.fileName? with
  | some name => shown name
  | none => defaultEntryPoint

/-- The name of the program in its help text, for which only a name that is text will do. -/
def usageName (called : Option Path) : String :=
  match (called.bind Path.fileName?).bind Utf8.decode? with
  | some name => String.ofList name
  | none => defaultEntryPoint

end CommandLine

end Decommission
