import Decommission.Config.Document
import Decommission.Fault
import Decommission.FileSystem.Content

/-!
# Loading a configuration file
-/

namespace Decommission.Config

def load (files : FileSystem) (path : Path) : Except Fault Config := do
  let text ← (files.readText path).mapError .io
  (ofText text).mapError .document

end Decommission.Config
