import Decommission.Control.Cancellation

/-!
# Processes

A stand-in for running processes, each in a group of its own, that take signals in different ways.
A process that has ended is still there until somebody has waited for it.
-/

namespace Decommission.Rehearsal

/-- How a process takes a request to end. -/
inductive Temper where
  | hang
  | stubborn
  /-- Takes a moment, and exits by itself. -/
  | trapped
  /-- Has ended before. -/
  | quick
  deriving DecidableEq, Repr

inductive Fate where
  | exited (code : Int)
  | signalled (signal : Nat)
  deriving DecidableEq, Repr

structure Process where
  temper : Temper
  /-- It is about to exit by itself. -/
  isLeaving : Bool := false
  fate : Option Fate := none
  /-- Somebody has waited for it. -/
  isReaped : Bool := false
  deriving DecidableEq, Repr

/-- The processes by group, and the time. -/
structure Processes where
  table : List (Group × Process) := []
  time : Nat := 0

namespace Process

def started (temper : Temper) : Process :=
  { temper, fate := if temper = .quick then some (.exited 3) else none }

/-- A process that was asked to end. -/
def asked (process : Process) : Process :=
  if process.fate.isSome then process
  else
    match process.temper with
    | .hang => { process with fate := some (.signalled 15) }
    | .trapped => { process with isLeaving := true }
    | .stubborn | .quick => process

def killed (process : Process) : Process :=
  if process.fate.isSome then process else { process with fate := some (.signalled 9) }

/-- A process some time later. -/
def later (process : Process) : Process :=
  if process.fate.isNone ∧ process.isLeaving then { process with fate := some (.exited 7) }
  else process

end Process

namespace Processes

def modify (processes : Processes) (group : Group) (f : Process → Process) : Processes :=
  { processes with
    table := processes.table.map fun (other, process) =>
      (other, if other = group then f process else process) }

/-- The group is there: nobody has waited for its process. -/
def isThere (processes : Processes) (group : Group) : Bool :=
  (processes.table.lookup group).any fun process => !process.isReaped

/-- The processes as a cancellation sees them. -/
def groups : Groups Processes where
  terminate group processes :=
    if processes.isThere group then (true, processes.modify group Process.asked)
    else (false, processes)
  probe group processes := (processes.isThere group, processes)
  kill group processes :=
    if processes.isThere group then processes.modify group Process.killed else processes
  now processes := (processes.time, processes)
  rest duration processes :=
    { table := processes.table.map fun (group, process) => (group, process.later)
      time := processes.time + duration }

def start (processes : Processes) (temper : Temper) : Group × Processes :=
  let group := processes.table.length + 1
  (group, { processes with table := processes.table ++ [(group, .started temper)] })

/-- Waits for a process: how it ended, if it ends at all. -/
def wait (processes : Processes) (group : Group) : Option Fate × Processes :=
  let processes := (groups.rest 0 processes).modify group fun process =>
    { process with isReaped := process.fate.isSome }
  ((processes.table.lookup group).bind (·.fate), processes)

end Processes

end Decommission.Rehearsal
