import Decommission.Control.Manager
import Decommission.FileSystem.Resolve

/-!
# Scripted service managers

A stand-in for the service manager that answers from a script: for each label a queue of answers for
each kind of request, and, once these are used up, from the number of times that the service has to
be booted out until it is gone.
-/

namespace Decommission.Rehearsal

/-- Answers still to be given, by label. -/
abbrev Queues (α : Type) := List (String × List α)

/-- Takes the next answer for a label. -/
def takeNext {α : Type} (label : String) : Queues α → Option α × Queues α
  | [] => (none, [])
  | (other, answers) :: rest =>
      if other = label then
        match answers with
        | [] => (none, (other, []) :: rest)
        | answer :: answers => (some answer, (other, answers) :: rest)
      else
        let (answer, rest) := takeNext label rest
        (answer, (other, answers) :: rest)

structure Script where
  /-- How often each service has to be booted out. -/
  loaded : List (String × Nat) := []
  list : Queues (Except Fault Bool) := []
  disable : Queues (Except Fault (Option Int)) := []
  bootOut : Queues (Except Fault (Option Int)) := []
  /-- What every request writes to its error output. -/
  errorText : String := ""
  /-- A path that is looked for at every request. -/
  watch : Option Path := none

namespace Script

/-- The number of answers that are left, as a bound on the rounds that a service can take. -/
def rounds (script : Script) : Nat :=
  script.loaded.foldr (fun entry count => entry.2 + count) 1 +
    script.list.foldr (fun queue count => queue.2.length + count) 0

def loadedCount (script : Script) (label : String) : Nat := (script.loaded.lookup label).getD 0

/-- A service has been booted out once. -/
def lower (script : Script) (label : String) : Script :=
  { script with
    loaded := script.loaded.map fun (other, count) =>
      (other, if other = label then count - 1 else count) }

end Script

/-- A scripted manager: the script and the requests made so far, the last one first. -/
structure Scripted where
  script : Script
  requests : List String := []

namespace Scripted

/-- Puts a request on record. -/
def record (scripted : Scripted) (request : String) (service : Service) (files : FileSystem) :
    Scripted :=
  let mark := match scripted.script.watch with
    | none => ""
    | some path => if (files.find? false path).isSome then " [present]" else " [gone]"
  { scripted with requests := (request ++ " " ++ service.label ++ mark) :: scripted.requests }

/-- The output of a request with this exit code. -/
def output (scripted : Scripted) (command : String) (exitCode : Option Int) : ControlOutput :=
  { command, exitCode, errorText := scripted.script.errorText }

def answerList (service : Service) (files : FileSystem) (scripted : Scripted) :
    Except Fault Bool × Scripted :=
  let scripted := scripted.record "list" service files
  let (answer, list) := takeNext service.label scripted.script.list
  (answer.getD (.ok (0 < scripted.script.loadedCount service.label)),
    { scripted with script := { scripted.script with list } })

def answerDisable (service : Service) (files : FileSystem) (scripted : Scripted) :
    Except Fault ControlOutput × Scripted :=
  let scripted := scripted.record "disable" service files
  let (answer, disable) := takeNext service.label scripted.script.disable
  let command := "launchctl disable system/" ++ service.label
  ((answer.getD (.ok (some 0))).map (scripted.output command),
    { scripted with script := { scripted.script with disable } })

def answerBootOut (service : Service) (files : FileSystem) (scripted : Scripted) :
    Except Fault ControlOutput × Scripted :=
  let scripted := scripted.record "bootout" service files
  let (answer, bootOut) := takeNext service.label scripted.script.bootOut
  let answer := answer.getD (.ok (some 0))
  let script := { scripted.script with bootOut }
  let isAccepted := match answer with
    | .ok (some code) => code = 0 || code = benignRaceCode
    | _ => false
  let command := "launchctl bootout system " ++ service.definition.display
  (answer.map (scripted.output command),
    { scripted with script := if isAccepted then script.lower service.label else script })

/-- The manager that answers from a script. -/
def manager : Manager Scripted where
  isLoaded := answerList
  disable := answerDisable
  bootOut := answerBootOut

end Scripted

end Decommission.Rehearsal
