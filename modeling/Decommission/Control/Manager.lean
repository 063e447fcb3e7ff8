import Decommission.Control.Outcome
import Decommission.Fault
import Decommission.FileSystem.Basic
import Decommission.Service

/-!
# Service managers

What is asked of a service manager: whether a service is loaded, that it is disabled, so that it is
not started again, and that it is booted out.
-/

namespace Decommission

/-- A service manager with states `σ`.  It may look at files and leaves them as they are. -/
structure Manager (σ : Type) where
  isLoaded : Service → FileSystem → σ → Except Fault Bool × σ
  /-- Keeps a service from being started again. -/
  disable : Service → FileSystem → σ → Except Fault ControlOutput × σ
  /-- Stops a service and unloads it. -/
  bootOut : Service → FileSystem → σ → Except Fault ControlOutput × σ

end Decommission
