import Decommission.CommandLine.Read
import Decommission.Config.Load
import Decommission.Config.Validate
import Decommission.Control.Launchctl
import Decommission.Run.Perform

/-!
# Invocations

One execution of the program: the command line is read, the configuration is put together from its
defaults, the configuration file and the command line, and if it is valid the run is performed with
the control program.  Nothing is run and nothing is removed before the configuration is known to be
valid.
-/

namespace Decommission

structure Invocation where
  program : Option Path
  arguments : List Bytes

/-- What the program leaves behind. -/
structure Conclusion (κ τ : Type) where
  /-- The exit status; `none` if the run did not come to an end. -/
  status : Option Int
  output : String
  errorOutput : String
  /-- What could be seen of the run. -/
  events : List Event
  files : FileSystem
  children : κ
  clock : τ

namespace Invocation

/-- The mark in front of an error on the error output. -/
def mark : String := "✗ "

/-- A fault with the error behind it, from the outside in. -/
def chain (fault : Fault) : String :=
  ": ".intercalate (fault.message :: fault.source?.toList)

/-- The configuration of a run, or why there is none. -/
def configuration (line : CommandLine) (files : FileSystem) : Except String Config := do
  let config ← match line.config with
    | none => pure Config.standard
    | some path =>
        (Config.load files path).mapError fun fault =>
          "Failed to load configuration from " ++ Text.quotedBytes path.bytes ++ ": " ++ chain fault
  let config := line.apply config
  config.validate.mapError fun defect =>
    "Invalid configuration: " ++ chain (.configuration defect.message)
  return config

variable {κ τ : Type}

def scene (files : FileSystem) (children : κ) (time : τ) (log : RunLog) :
    Scene (Launchctl.State κ) τ where
  manager := ⟨children, .none⟩
  clock := time
  files
  log
  progress := .fresh

def statusOf {α : Type} : Ending α → Option Int
  | .done _ => some 0
  | .failed _ => some 1
  | .halted (.signal signal) => some (128 + signal.number)
  | .halted .exhausted => none

/-- What is written about the end of a run. -/
def reportOf {α : Type} (logPath : Path) : Ending α → String
  | .failed fault =>
      mark ++ "Preinstall failed: " ++ fault.message ++ "\n  See " ++ logPath.display ++
        " for details\n"
  | _ => ""

/-- A conclusion from an act performed. -/
def conclude {α : Type} (status : Option Int) (errorOutput : String)
    (performed : Performance (Launchctl.State κ) τ α) : Conclusion κ τ where
  status
  output := ""
  errorOutput
  events := performed.events
  files := performed.scene.files
  children := performed.scene.manager.children
  clock := performed.scene.clock

/-- Carries out a command line that could be read. -/
def carryOut (children : Children κ) (clock : Clock τ) (rounds : Nat) (program : Option Path)
    (line : CommandLine) (files : FileSystem) (running : κ) (time : τ) : Conclusion κ τ :=
  let entryPoint := CommandLine.entryPoint program
  match configuration line files with
  | .error reason =>
      let start := scene files running time (.opened line.fallbackLogPath entryPoint)
      let record : Act (Launchctl.State κ) τ Unit := Act.trap clock .invoking (.configuration reason)
      conclude (some Fault.configurationCode) (mark ++ reason ++ "\n") (record start)
  | .ok config =>
      let start := scene files running time (.opened config.logPath entryPoint)
      let launchctl : Launchctl := ⟨config.launchctl, config.domain⟩
      let performed := Act.run (launchctl.manager children) clock rounds config start
      conclude (statusOf performed.ending) (reportOf config.logPath performed.ending) performed

/-- Performs an invocation, with at most so many rounds for each service. -/
def perform (children : Children κ) (clock : Clock τ) (rounds : Nat) (invocation : Invocation)
    (files : FileSystem) (running : κ) (time : τ) : Conclusion κ τ :=
  match CommandLine.read invocation.arguments with
  | .error refusal =>
      let text := refusal.text .stream (CommandLine.usageName invocation.program)
      { status := some refusal.status
        output := if refusal.isAnswer then text else ""
        errorOutput := if refusal.isAnswer then "" else text ++ "\n"
        events := []
        files
        children := running
        clock := time }
  | .ok line => carryOut children clock rounds invocation.program line files running time

end Invocation

end Decommission
