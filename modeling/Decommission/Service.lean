import Decommission.Path

/-!
# Services

A service is known by a name for people, a label for the service manager, and the file that defines
it.
-/

namespace Decommission

/-- A service that has to stand still before files are replaced. -/
structure Service where
  /-- The name used in the run log. -/
  name : String
  /-- The label under which the service manager lists it. -/
  label : String
  /-- The file that defines it. -/
  definition : Path
  deriving DecidableEq, Repr

namespace Service

def definitionDirectory : String := "/Library/LaunchDaemons"

/-- The roles installed as services, in the order in which they are stopped. -/
def roles : List String := ["minion", "master", "syndic", "api"]

def ofRole (role : String) : Service :=
  let label := "com.saltstack.salt." ++ role
  { name := "salt-" ++ role
    label
    definition := (Path.ofString definitionDirectory).join (bytesOf (label ++ ".plist")) }

def installed : List Service := roles.map ofRole

end Service

end Decommission
