import Decommission.Json.ReadError
import Decommission.Path
import Decommission.Stage
import Decommission.StopPolicy
import Decommission.SystemError

/-!
# Faults

What can end a run.  Every fault has a message, a code and a command for the run log; one that was
found at a call also knows which part of the program made it.
-/

namespace Decommission

/-- The part of the program a fault comes from. -/
inductive Origin where
  | stopping
  | control
  | cleaning
  | running
  | invoking
  /-- Whoever uses the program's parts, by a name of its own. -/
  | outside (name : String)
  deriving DecidableEq, Repr

def Origin.display : Origin → String
  | .stopping => "services"
  | .control => "service_manager"
  | .cleaning => "cleanup"
  | .running => "preinstall"
  | .invoking => "main"
  | .outside name => name

/-- What ended a run. -/
inductive Fault where
  /-- A control call ended with a code that is no success. -/
  | service (code : Int) (command : String) (origin : Origin)
  | spawn (command : String) (cause : IoError) (origin : Origin)
  | cleanup (path : Path) (command : String) (cause : IoError) (origin : Origin)
  /-- A service was still loaded after `waited` milliseconds. -/
  | stopTimeout (service : String) (waited : Nat) (command : String) (origin : Origin)
  | transition (refusal : Refusal)
  /-- The configuration cannot be used. -/
  | configuration (reason : String)
  | io (cause : IoError)
  | document (cause : Json.ReadError)
  deriving DecidableEq, Repr

namespace Fault

/-- The code of a service that never unloaded. -/
def timeoutCode : Int := 124

def configurationCode : Int := 2

/-- The code of a fault that has no other. -/
def generalCode : Int := 1

def message : Fault → String
  | .service code command _ => "`" ++ command ++ "` exited with code " ++ toString code
  | .spawn command cause _ => "failed to run `" ++ command ++ "`: " ++ cause.message
  | .cleanup path _ cause _ => "failed to remove " ++ path.display ++ ": " ++ cause.message
  | .stopTimeout name waited _ _ =>
      name ++ " still loaded after " ++ toString (waited / StopPolicy.second) ++ "s"
  | .transition refusal => "Run state error: " ++ refusal.message
  | .configuration reason => "Configuration error: " ++ reason
  | .io cause => "IO error: " ++ cause.message
  | .document cause => "JSON error: " ++ cause.message

def code : Fault → Int
  | .service code _ _ => code
  | .spawn _ cause _ | .cleanup _ _ cause _ | .io cause => cause.code?.getD generalCode
  | .stopTimeout _ _ _ _ => timeoutCode
  | .configuration _ => configurationCode
  | .transition _ | .document _ => generalCode

/-- The part of the program the fault comes from, where it is known. -/
def origin? : Fault → Option Origin
  | .service _ _ origin | .spawn _ _ origin | .cleanup _ _ _ origin
  | .stopTimeout _ _ _ origin => some origin
  | .transition _ | .configuration _ | .io _ | .document _ => none

/-- The command that failed; a fault without one shows its message in its place. -/
def command (fault : Fault) : String :=
  match fault with
  | .service _ command _ | .spawn command _ _ | .cleanup _ command _ _
  | .stopTimeout _ _ command _ => command
  | .transition _ | .configuration _ | .io _ | .document _ => fault.message

/-- The text of the error behind the fault, if there is one. -/
def source? : Fault → Option String
  | .spawn _ cause _ | .cleanup _ _ cause _ | .io cause => some cause.message
  | .transition refusal => some refusal.message
  | .document cause => some cause.message
  | .service _ _ _ | .stopTimeout _ _ _ _ | .configuration _ => none

end Fault

end Decommission
