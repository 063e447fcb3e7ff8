/-!
# Stages of a run

A run stops services, then cleans up, and is done.  From every stage but the last two it can also
be aborted.  `Progress` holds the current stage and, once a run was aborted, the stage in which
that happened.
-/

namespace Decommission

/-- The stages in the order in which a run goes through them. -/
inductive Stage where
  | start
  | stoppingServices
  | cleaningArtifacts
  | done
  | aborted
  deriving DecidableEq, Repr

namespace Stage

def ordinal : Stage → Nat
  | .start => 0
  | .stoppingServices => 1
  | .cleaningArtifacts => 2
  | .done => 3
  | .aborted => 255

/-- No stage follows a terminal one. -/
def isTerminal : Stage → Bool
  | .done | .aborted => true
  | _ => false

def next? : Stage → Option Stage
  | .start => some .stoppingServices
  | .stoppingServices => some .cleaningArtifacts
  | .cleaningArtifacts => some .done
  | .done | .aborted => none

def description : Stage → String
  | .start => "Not started"
  | .stoppingServices => "Stopping services"
  | .cleaningArtifacts => "Cleaning up previous installation"
  | .done => "Preinstall complete"
  | .aborted => "Preinstall aborted"

theorem next?_eq_none_iff (stage : Stage) : stage.next? = none ↔ stage.isTerminal = true := by
  cases stage <;> simp [next?, isTerminal]

end Stage

/-- Why a change of stage is refused. -/
inductive Refusal where
  /-- The run has ended in stage `source`. -/
  | terminal (source : Stage)
  /-- Stage `target` does not follow stage `source`. -/
  | outOfOrder (source target : Stage)
  deriving DecidableEq, Repr

def Refusal.message : Refusal → String
  | .terminal source => "Cannot transition from terminal state " ++ source.description
  | .outOfOrder source target =>
      "Cannot move from " ++ source.description ++ " to " ++ target.description ++
        " (stages run strictly in order)"

structure Progress where
  stage : Stage := .start
  abortedAt : Option Stage := none
  deriving DecidableEq, Repr

namespace Progress

/-- The progress of a run that has not begun. -/
def fresh : Progress := {}

def advance (progress : Progress) : Except Refusal Progress :=
  match progress.stage.next? with
  | none => .error (.terminal progress.stage)
  | some stage => .ok { progress with stage }

/-- Goes to the stage `target`, which has to be the next one. -/
def transitionTo (target : Stage) (progress : Progress) : Except Refusal Progress :=
  if progress.stage.isTerminal then .error (.terminal progress.stage)
  else if progress.stage.next? = some target then progress.advance
  else .error (.outOfOrder progress.stage target)

/-- Aborts a run that has not ended, and leaves one that has as it is. -/
def abort (progress : Progress) : Progress :=
  if progress.stage.isTerminal then progress
  else { stage := .aborted, abortedAt := some progress.stage }

variable {progress next : Progress}

theorem advance_eq_ok_iff : progress.advance = .ok next ↔
    ∃ stage, progress.stage.next? = some stage ∧ next = { progress with stage } := by
  rw [advance]
  cases progress.stage.next? with
  | none => simp
  | some stage => simp [eq_comm]

theorem transitionTo_eq_ok_iff {target : Stage} : progress.transitionTo target = .ok next ↔
    progress.stage.next? = some target ∧ next = { progress with stage := target } := by
  rw [transitionTo, advance]
  constructor
  · intro hnext
    split at hnext
    · cases hnext
    · split at hnext
      · rename_i hfollows
        rw [hfollows] at hnext
        cases hnext
        exact ⟨hfollows, rfl⟩
      · cases hnext
  · rintro ⟨hfollows, rfl⟩
    have hterminal : progress.stage.isTerminal ≠ true := by
      rw [ne_eq, ← Stage.next?_eq_none_iff, hfollows]
      simp
    rw [if_neg hterminal, if_pos hfollows, hfollows]

/-- A run that has not begun can begin. -/
theorem not_refused_of_start {refusal : Refusal} (hstart : progress.stage = .start) :
    progress.transitionTo .stoppingServices ≠ .error refusal := by
  have hnext : progress.stage.next? = some .stoppingServices := by
    rw [hstart]
    rfl
  rw [transitionTo_eq_ok_iff.mpr ⟨hnext, rfl⟩]
  simp

/-- What has ended does not begin. -/
theorem transitionTo_of_isTerminal (hended : progress.stage.isTerminal = true) (stage : Stage) :
    progress.transitionTo stage = .error (.terminal progress.stage) := by
  rw [transitionTo, if_pos hended]

theorem abort_of_isTerminal (hended : progress.stage.isTerminal = true) :
    progress.abort = progress := by
  rw [abort, if_pos hended]

end Progress

end Decommission
