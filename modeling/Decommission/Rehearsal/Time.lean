import Decommission.Clock

/-!
# Rehearsal time

A clock on which time passes in pauses only, so that a run takes no time to watch.  The first pause
can be cut short by a signal.
-/

namespace Decommission.Rehearsal

/-- The time on a rehearsal clock, and the signal that will arrive in the first pause. -/
structure Time where
  elapsed : Nat := 0
  signal : Option Signal := none
  deriving DecidableEq, Repr

namespace Time

def date : Stamp := ⟨2000, 1, 1, 0, 0, 0⟩

def clock : Clock Time where
  now time := (time.elapsed, time)
  stamp time := (date, time)
  pause duration time := (time.signal, { elapsed := time.elapsed + duration })

end Time

end Decommission.Rehearsal
