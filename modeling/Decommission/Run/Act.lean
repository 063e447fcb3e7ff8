import Decommission.Control.Manager
import Decommission.RunLog
import Decommission.Target

/-!
# Acts

What a run does, one act after the other, in a scene made of a service manager, a clock, a file
system and a run log.  Performing an act gives its result, the scene it leaves behind, and the
events in between, in order.  An act that fails ends everything that was to follow.
-/

namespace Decommission

/-- What acts work on. -/
structure Scene (σ τ : Type) where
  manager : σ
  clock : τ
  files : FileSystem
  log : RunLog
  progress : Progress

/-- What can be seen of an act. -/
inductive Event where
  /-- The manager was asked whether a service is loaded. -/
  | listed (service : Service) (answer : Except Fault Bool)
  /-- The manager was asked to disable a service. -/
  | disabled (service : Service) (answer : Except Fault ControlOutput)
  /-- The manager was asked to boot a service out. -/
  | bootedOut (service : Service) (answer : Except Fault ControlOutput)
  | paused (duration : Nat)
  /-- A target was looked for. -/
  | tested (target : Target) (present : Bool)
  /-- A target was removed, or an attempt failed. -/
  | removed (target : Target) (answer : Except IoError Unit)
  /-- A message went to the run log. -/
  | said (stamp : Stamp) (message : String)
  /-- The fatal message of a fault went to the run log. -/
  | trapped (stamp : Stamp) (message : String)

/-- Why an act was given up with no result. -/
inductive Halt where
  /-- A signal ended the program. -/
  | signal (signal : Signal)
  /-- The number of rounds that it was given is used up. -/
  | exhausted
  deriving DecidableEq, Repr

inductive Ending (α : Type) where
  | done (value : α)
  | failed (fault : Fault)
  | halted (reason : Halt)

/-- An act performed. -/
structure Performance (σ τ α : Type) where
  ending : Ending α
  events : List Event
  scene : Scene σ τ

/-- Something to be done in a scene. -/
def Act (σ τ α : Type) : Type := Scene σ τ → Performance σ τ α

namespace Act

variable {σ τ α β : Type}

def done (value : α) : Act σ τ α := fun scene => ⟨.done value, [], scene⟩

def fail (fault : Fault) : Act σ τ α := fun scene => ⟨.failed fault, [], scene⟩

def halt (reason : Halt) : Act σ τ α := fun scene => ⟨.halted reason, [], scene⟩

/-- Does one thing and, if it has a result, what follows from that. -/
def andThen (first : Act σ τ α) (next : α → Act σ τ β) : Act σ τ β := fun scene =>
  let performed := first scene
  match performed.ending with
  | .done value =>
      let rest := next value performed.scene
      ⟨rest.ending, performed.events ++ rest.events, rest.scene⟩
  | .failed fault => ⟨.failed fault, performed.events, performed.scene⟩
  | .halted reason => ⟨.halted reason, performed.events, performed.scene⟩

instance : Monad (Act σ τ) where
  pure := done
  bind := andThen

/-- Sends a message to the run log. -/
def write (clock : Clock τ) (message : String) (event : Stamp → String → Event) :
    Act σ τ Unit := fun scene =>
  let (stamp, time) := clock.stamp scene.clock
  let (log, files) := scene.log.write stamp message scene.files
  ⟨.done (), [event stamp message], { scene with clock := time, log, files }⟩

def say (clock : Clock τ) (message : String) : Act σ τ Unit :=
  write clock message .said

/-- Logs a fault and ends with it.  A fault of unknown origin is attributed to the caller. -/
def trap (clock : Clock τ) (caller : Origin) (fault : Fault) : Act σ τ α := fun scene =>
  let message := scene.log.fatal caller fault
  (write clock message .trapped).andThen (fun () => fail fault) scene

def now (clock : Clock τ) : Act σ τ Nat := fun scene =>
  let (time, state) := clock.now scene.clock
  ⟨.done time, [], { scene with clock := state }⟩

/-- Lets time pass, unless a signal ends the program. -/
def pause (clock : Clock τ) (duration : Nat) : Act σ τ Unit := fun scene =>
  let (signal, state) := clock.pause duration scene.clock
  let ending := match signal with
    | none => .done ()
    | some signal => .halted (.signal signal)
  ⟨ending, [.paused duration], { scene with clock := state }⟩

/-- Puts a question to the manager. -/
def ask (question : FileSystem → σ → Except Fault α × σ) (event : Except Fault α → Event) :
    Act σ τ (Except Fault α) := fun scene =>
  let (answer, manager) := question scene.files scene.manager
  ⟨.done answer, [event answer], { scene with manager }⟩

/-- Goes on with an answer, or traps the fault in its place. -/
def accept (clock : Clock τ) (caller : Origin) : Except Fault α → Act σ τ α
  | .ok value => done value
  | .error fault => trap clock caller fault

def progress : Act σ τ Progress := fun scene => ⟨.done scene.progress, [], scene⟩

def setProgress (progress : Progress) : Act σ τ Unit := fun scene =>
  ⟨.done (), [], { scene with progress }⟩

def look (view : FileSystem → α) (event : α → Event) : Act σ τ α := fun scene =>
  let value := view scene.files
  ⟨.done value, [event value], scene⟩

def change (step : FileSystem → α × FileSystem) (event : α → Event) : Act σ τ α := fun scene =>
  let (value, files) := step scene.files
  ⟨.done value, [event value], { scene with files }⟩

end Act

end Decommission
