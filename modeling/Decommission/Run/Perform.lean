import Decommission.Config.Basic
import Decommission.Run.Cleanup
import Decommission.Run.Stop

/-!
# Runs

A run first stops all services and then removes all artifacts.  Nothing is undone when it fails: the
fault has been logged where it occurred, and the run is aborted.
-/

namespace Decommission

/-- What a run has done, or in a dry run would have done. -/
structure RunReport where
  /-- The services that were loaded and are now stopped. -/
  stopped : List String
  removed : List Path
  skipped : List Path
  /-- The requests that another actor was already carrying out. -/
  benignRaces : Count
  deriving DecidableEq, Repr

namespace RunReport

/-- The report of a run that stopped services and then met targets as told. -/
def of (stops : List (String × StopReport)) (targets : List (Target × CleanupOutcome)) :
    RunReport where
  stopped := (stops.filter (·.2.wasRunning)).map Prod.fst
  removed := (targets.filter (·.2 ≠ .absent)).map (·.1.path)
  skipped := (targets.filter (·.2 = .absent)).map (·.1.path)
  benignRaces := stops.foldr (fun stop count => stop.2.benignRaces + count) 0

end RunReport

namespace Act

variable {σ τ : Type}

/-- Goes to a stage, or traps the refusal. -/
def enter (clock : Clock τ) (stage : Stage) : Act σ τ Unit := do
  match (← progress).transitionTo stage with
  | .ok progress => setProgress progress
  | .error refusal => trap clock .running (.transition refusal)

/-- Does what a run does, in at most so many rounds for each service. -/
def execute (manager : Manager σ) (clock : Clock τ) (rounds : Nat) (config : Config) :
    Act σ τ RunReport := do
  enter clock .stoppingServices
  say clock (if config.dryRun then "[DRY RUN] Preinstall started" else "Preinstall started")
  let stops ← stopAll manager clock config.stopPolicy rounds config.services
  enter clock .cleaningArtifacts
  let outcomes ← cleanupAll clock config.dryRun config.targets
  enter clock .done
  say clock "Preinstall Completed Successfully"
  return .of stops (config.targets.zip outcomes)

/-- A run: what it does, and that a fault aborts it. -/
def run (manager : Manager σ) (clock : Clock τ) (rounds : Nat) (config : Config) :
    Act σ τ RunReport := fun scene =>
  let performed := execute manager clock rounds config scene
  match performed.ending with
  | .failed _ =>
      { performed with
        scene := { performed.scene with progress := performed.scene.progress.abort } }
  | _ => performed

end Act

end Decommission
