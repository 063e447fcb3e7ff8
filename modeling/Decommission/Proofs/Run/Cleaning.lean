import Decommission.Proofs.Run.Shape
import Decommission.Run.Cleanup

/-!
# What cleaning up shows

All that can be seen while a target is dealt with.  Several targets are dealt with in turn.
-/

namespace Decommission

section Shapes

variable (log : RunLog) (dryRun : Bool)

/-- The events and the ending of dealing with a target. -/
inductive Cleaning (target : Target) : List Event → Ending CleanupOutcome → Prop where
  | absent : Cleaning target [.tested target false] (.done .absent)
  | rehearsed {stamp} (hdry : dryRun = true) :
      Cleaning target
        [.tested target true, .said stamp ("[DRY RUN] Would remove " ++ target.path.display)]
        (.done .wouldRemove)
  | removed {stamp stamp'} (hdry : dryRun = false) :
      Cleaning target
        [.tested target true, .said stamp ("Removing " ++ target.path.display),
          .removed target (.ok ()), .said stamp' "Removed Successfully"]
        (.done .removed)
  | stuck {cause stamp stamp'} (hdry : dryRun = false) :
      Cleaning target
        [.tested target true, .said stamp ("Removing " ++ target.path.display),
          .removed target (.error cause), .trapped stamp'
            (log.fatal .cleaning (.cleanup target.path target.command cause .cleaning))]
        (.failed (.cleanup target.path target.command cause .cleaning))

/-- The events and the ending of dealing with targets in turn. -/
def CleaningAll : List Target → List Event → Ending (List CleanupOutcome) → Prop :=
  InTurn (Cleaning log dryRun) fun _ outcome => outcome

end Shapes

section Dry

variable {log : RunLog} {events : List Event}

/-- Dealing with a target in a dry run does not fail. -/
theorem Cleaning.exists_done {target : Target} {ending : Ending CleanupOutcome}
    (hclean : Cleaning log true target events ending) : ∃ outcome, ending = .done outcome := by
  cases hclean with
  | absent | rehearsed => exact ⟨_, rfl⟩
  | removed hreal | stuck hreal => cases hreal

theorem CleaningAll.exists_done {targets : List Target} {ending : Ending (List CleanupOutcome)}
    (hcleans : CleaningAll log true targets events ending) :
    ∃ outcomes, ending = .done outcomes :=
  InTurn.exists_done hcleans fun _ _ _ hclean => hclean.exists_done

end Dry

namespace Act

variable {σ τ : Type} {log : RunLog} {progress : Progress}

theorem shows_cleanup (clock : Clock τ) (dryRun : Bool) (target : Target) :
    (cleanup clock dryRun target : Act σ τ CleanupOutcome).Shows log progress
      (Cleaning log dryRun target) := by
  apply shows_look_bind
  intro present
  cases present with
  | false => exact shows_pure .absent
  | true =>
      rw [if_pos rfl]
      cases dryRun with
      | true =>
          rw [if_pos rfl]
          exact shows_say_bind fun stamp => shows_pure (.rehearsed rfl)
      | false =>
          rw [if_neg (by simp)]
          apply shows_say_bind
          intro stamp
          apply shows_change_bind
          intro answer
          cases answer with
          | error cause => exact shows_trap fun stamp' => .stuck rfl
          | ok _ => exact shows_say_bind fun stamp' => shows_pure (.removed rfl)

theorem shows_cleanupAll (clock : Clock τ) (dryRun : Bool) (targets : List Target) :
    (cleanupAll clock dryRun targets : Act σ τ (List CleanupOutcome)).Shows log progress
      (CleaningAll log dryRun targets) := by
  induction targets with
  | nil => exact shows_done .nil
  | cons target rest ih => exact shows_inTurn_cons (shows_cleanup clock dryRun target) ih

end Act

end Decommission
