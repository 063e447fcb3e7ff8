import Decommission.Clock
import Decommission.Fault
import Decommission.FileSystem.Content

/-!
# The run log

A text file with one line for each thing that happened.  It is opened by the first line and stays
open; each line is appended to the file that was opened then, wherever that is by now.  When the
file cannot be opened the line is lost and the next line tries again.
-/

namespace Decommission

structure RunLog where
  path : Path
  /-- The name of the program in fatal lines. -/
  entryPoint : String
  /-- The file, once it is open. -/
  handle : Option ObjectId
  deriving DecidableEq, Repr

namespace RunLog

/-- A run log that nothing has been written to. -/
def opened (path : Path) (entryPoint : String) : RunLog := ⟨path, entryPoint, none⟩

def line (stamp : Stamp) (message : String) : String :=
  stamp.display ++ ": " ++ message ++ "\n"

/-- The message of a fault.  A fault of unknown origin is attributed to the caller. -/
def fatal (log : RunLog) (caller : Origin) (fault : Fault) : String :=
  log.entryPoint ++ " caught error: " ++ toString fault.code ++ " on line " ++
    (fault.origin?.getD caller).display ++ " command was: " ++ fault.command

/-- Appends one line. -/
def write (log : RunLog) (stamp : Stamp) (message : String) (files : FileSystem) :
    RunLog × FileSystem :=
  let bytes := bytesOf (line stamp message)
  match log.handle with
  | some object => (log, files.append object bytes)
  | none =>
      match files.openAppend log.path with
      | .ok (object, files) => ({ log with handle := some object }, files.append object bytes)
      | .error _ => (log, files)

end RunLog

end Decommission
