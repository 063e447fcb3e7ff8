/-!
# Waiting for a service

How long the program waits between a stop request and the next query, and when it gives up.
Durations are in milliseconds.
-/

namespace Decommission

/-- How a service is waited on. -/
structure StopPolicy where
  /-- The pause between a stop request and the next query. -/
  pollInterval : Nat
  /-- The time after which a service that is still loaded is given up; `none` waits forever. -/
  timeout : Option Nat
  dryRun : Bool
  deriving DecidableEq, Repr

namespace StopPolicy

def second : Nat := 1000

/-- A query every second, for two minutes at most. -/
def standard : StopPolicy := ⟨second, some (120 * second), false⟩

end StopPolicy

end Decommission
