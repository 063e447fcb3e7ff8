import Decommission.FileSystem.Remove
import Decommission.Run.Act

/-!
# Removing artifacts

A target is looked for in the way of its kind.  One that is there is removed; one that is not is
passed over without a word.
-/

namespace Decommission

namespace Target

def isPresent (target : Target) (files : FileSystem) : Bool :=
  match target.kind with
  | .symlink => (files.find? false target.path).any fun found => found.2.isLink
  | .directoryTree => (files.find? true target.path).any fun found => found.2.isDirectory
  | .registrationFile => (files.find? true target.path).any fun found => found.2.isFile

def attempt (target : Target) (files : FileSystem) : Except IoError Unit × FileSystem :=
  match target.kind with
  | .directoryTree => files.removeTree target.path
  | .symlink | .registrationFile => files.unlink target.path

/-- That nothing is there any more is no error. -/
def forgive : Except IoError Unit → Except IoError Unit
  | .ok () => .ok ()
  | .error error => if error = .os .noEntry then .ok () else .error error

/-- Removes what the path of the target names, if that is still there. -/
def remove (target : Target) (files : FileSystem) : Except IoError Unit × FileSystem :=
  let (answer, files) := target.attempt files
  (forgive answer, files)

end Target

/-- What became of a target. -/
inductive CleanupOutcome where
  | removed
  | absent
  /-- The target is there and was left alone. -/
  | wouldRemove
  deriving DecidableEq, Repr

namespace Act

variable {σ τ : Type}

def takeAway (clock : Clock τ) (target : Target) : Act σ τ CleanupOutcome := do
  say clock ("Removing " ++ target.path.display)
  match ← change target.remove (.removed target) with
  | .error cause => trap clock .cleaning (.cleanup target.path target.command cause .cleaning)
  | .ok () =>
      say clock "Removed Successfully"
      return .removed

def cleanup (clock : Clock τ) (dryRun : Bool) (target : Target) : Act σ τ CleanupOutcome := do
  if ← look target.isPresent (.tested target) then
    if dryRun then
      say clock ("[DRY RUN] Would remove " ++ target.path.display)
      return .wouldRemove
    takeAway clock target
  else return .absent

def cleanupAll (clock : Clock τ) (dryRun : Bool) : List Target → Act σ τ (List CleanupOutcome)
  | [] => done []
  | target :: rest => do
      let outcome ← cleanup clock dryRun target
      let outcomes ← cleanupAll clock dryRun rest
      return outcome :: outcomes

end Act

end Decommission
