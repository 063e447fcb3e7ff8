import Decommission.Control.Calls
import Decommission.Control.Manager
import Decommission.Text.Blank

/-!
# The control program

The service manager reached through its control program.  Each request is one call of the program,
which is registered among the calls in flight for as long as it runs.
-/

namespace Decommission

/-- A call of a program that has ended. -/
structure Ended where
  /-- The exit code; `none` if a signal ended the call. -/
  exitCode : Option Int
  /-- What the call wrote to its error output. -/
  errorOutput : Bytes
  deriving DecidableEq, Repr

/-- Programs being run, with states `κ`. -/
structure Children (κ : Type) where
  /-- Starts a program with arguments, as a process group of its own. -/
  spawn : Path → List String → FileSystem → κ → Except IoError Group × κ
  /-- Waits for a program to end.  Meanwhile others may work on the set of calls. -/
  wait : Group → Calls → κ → Except IoError Ended × Calls × κ

/-- The control program and the domain it is used in. -/
structure Launchctl where
  binary : Path
  domain : String
  deriving DecidableEq, Repr

namespace Launchctl

def standard : Launchctl := ⟨.ofString "/bin/launchctl", "system"⟩

structure State (κ : Type) where
  children : κ
  calls : Calls

/-- A call as it is written to the run log. -/
def commandLine (launchctl : Launchctl) (arguments : List String) : String :=
  " ".intercalate (launchctl.binary.display :: arguments)

def listArguments (service : Service) : List String := ["list", service.label]

def disableArguments (launchctl : Launchctl) (service : Service) : List String :=
  ["disable", launchctl.domain ++ "/" ++ service.label]

def bootOutArguments (launchctl : Launchctl) (service : Service) : List String :=
  ["bootout", launchctl.domain, service.definition.display]

variable {κ : Type}

/-- Runs the control program once. -/
def call (launchctl : Launchctl) (children : Children κ) (arguments : List String)
    (files : FileSystem) (state : State κ) : Except Fault ControlOutput × State κ :=
  let command := launchctl.commandLine arguments
  match children.spawn launchctl.binary arguments files state.children with
  | (.error cause, running) => (.error (.spawn command cause .control), ⟨running, state.calls⟩)
  | (.ok group, running) =>
      let (waited, calls, running) := children.wait group (state.calls.track group) running
      let state := ⟨running, calls.release group⟩
      match waited with
      | .error cause => (.error (.spawn command cause .control), state)
      | .ok ended =>
          let errorText := Text.trim (shown ended.errorOutput)
          (.ok { command, exitCode := ended.exitCode, errorText }, state)

/-- The service manager behind the control program. -/
def manager (launchctl : Launchctl) (children : Children κ) : Manager (State κ) where
  isLoaded service files state :=
    let (output, state) := launchctl.call children (listArguments service) files state
    (output.map fun output => output.exitCode == some 0, state)
  disable service := launchctl.call children (launchctl.disableArguments service)
  bootOut service := launchctl.call children (launchctl.bootOutArguments service)

end Launchctl

end Decommission
