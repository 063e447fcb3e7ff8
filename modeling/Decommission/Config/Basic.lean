import Decommission.Service
import Decommission.StopPolicy
import Decommission.Target

/-!
# Configuration

Everything a run can be told.  Every setting has a default, so that the program can be run with no
configuration at all.
-/

namespace Decommission

structure Config where
  /-- The services to stop, in order. -/
  services : List Service
  /-- The artifacts to remove, in order. -/
  targets : List Target
  logPath : Path
  /-- Milliseconds between a stop request and the next query. -/
  pollInterval : UInt64
  /-- Seconds after which a service is given up; zero waits forever. -/
  stopTimeout : UInt64
  /-- The control program of the service manager. -/
  launchctl : Path
  /-- The domain of the service manager in which the services live. -/
  domain : String
  /-- Report what would be done and do nothing. -/
  dryRun : Bool
  deriving DecidableEq, Repr

namespace Config

def defaultLogPath : Path := .ofString "/tmp/preinstall.txt"

def defaultLaunchctl : Path := .ofString "/bin/launchctl"

def defaultDomain : String := "system"

/-- The configuration of a run that is told nothing. -/
def standard : Config where
  services := Service.installed
  targets := Target.installed
  logPath := defaultLogPath
  pollInterval := 1000
  stopTimeout := 120
  launchctl := defaultLaunchctl
  domain := defaultDomain
  dryRun := false

/-- The stop timeout in milliseconds, if there is one. -/
def timeout? (config : Config) : Option Nat :=
  if config.stopTimeout = 0 then none
  else some (config.stopTimeout.toNat * StopPolicy.second)

def stopPolicy (config : Config) : StopPolicy where
  pollInterval := config.pollInterval.toNat
  timeout := config.timeout?
  dryRun := config.dryRun

end Config

end Decommission
