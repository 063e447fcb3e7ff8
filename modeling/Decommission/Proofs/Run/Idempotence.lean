import Decommission.FileSystem.Arrange
import Decommission.Proofs.Log.Line
import Decommission.Proofs.Run.Law
import Decommission.Proofs.Run.Target
import Decommission.Rehearsal.Script
import Decommission.Rehearsal.Time

/-!
# Cleaning up twice

Cleaning up only takes entries away, and a target that is absent stays absent in every part of a
file system.  So once a whole pass has succeeded nothing is left for another one.
-/

namespace Decommission.Act

variable {σ τ : Type}

/-- With its log open, what happens adds no entry and leaves the log open. -/
def Shrinks (first : Scene σ τ) (_ : List Event) (last : Scene σ τ) : Prop :=
  first.log.handle.isSome = true →
    last.log.handle.isSome = true ∧ last.files.IsPart first.files

theorem shrinks_write (clock : Clock τ) (message : String) (event : Stamp → String → Event) :
    (write clock message event : Act σ τ Unit).Obeys Shrinks := by
  intro scene hopen
  obtain ⟨object, hhandle⟩ := Option.isSome_iff_exists.mp hopen
  have hattach := RunLog.attach_of_handle hhandle scene.files
  unfold write
  simp only [RunLog.write_of_attach hattach]
  exact ⟨rfl, FileSystem.isPart_append scene.files object _⟩

theorem cleanLaw_shrinks (clock : Clock τ) : CleanLaw (σ := σ) clock Shrinks where
  nothing scene hopen := ⟨hopen, FileSystem.IsPart.refl scene.files⟩
  append hfirst hmore hopen := by
    obtain ⟨hstill, hpart⟩ := hfirst hopen
    obtain ⟨hlast, hmore⟩ := hmore hstill
    exact ⟨hlast, hmore.trans hpart⟩
  moved _ hlast := hlast
  said message := shrinks_write clock message .said
  trapped message := shrinks_write clock message .trapped
  tested _ scene hopen := ⟨hopen, FileSystem.IsPart.refl scene.files⟩
  removed target scene hopen := ⟨hopen, (target.remove_loses scene.files).isPart⟩

/-- A target that is absent is passed over, and nothing changes. -/
theorem cleanup_of_absent (clock : Clock τ) (dryRun : Bool) {target : Target}
    {scene : Scene σ τ} (habsent : target.isPresent scene.files = false) :
    cleanup clock dryRun target scene = ⟨.done .absent, [.tested target false], scene⟩ := by
  have hlook : look target.isPresent (.tested target) scene =
      ⟨.done false, [.tested target false], scene⟩ := by
    simp [look, habsent]
  exact bind_of_done hlook

theorem cleanup_of_present (clock : Clock τ) {target : Target} {scene : Scene σ τ}
    (hpresent : target.isPresent scene.files = true) :
    cleanup clock false target scene =
      (takeAway clock target scene).precededBy [.tested target true] := by
  have hlook : look target.isPresent (.tested target) scene =
      ⟨.done true, [.tested target true], scene⟩ := by
    simp [look, hpresent]
  exact bind_of_done hlook

/-- A target that has been taken away is absent. -/
theorem isPresent_of_takeAway (clock : Clock τ) {target : Target} {scene : Scene σ τ}
    {outcome : CleanupOutcome} (hopen : scene.log.handle.isSome = true)
    (hdone : (takeAway clock target scene).ending = .done outcome) :
    target.isPresent (takeAway clock target scene).scene.files = false := by
  have hsaid := shrinks_write clock ("Removing " ++ target.path.display) .said scene hopen
  generalize hmiddle : (write clock ("Removing " ++ target.path.display) .said scene).scene = said
    at hsaid
  have hsay : say clock ("Removing " ++ target.path.display) scene =
      ⟨.done (), [.said (clock.stamp scene.clock).1 ("Removing " ++ target.path.display)], said⟩ :=
    by rw [← hmiddle]; rfl
  rw [takeAway, bind_of_done hsay] at hdone ⊢
  cases hremove : target.remove said.files with
  | mk answer files =>
    have hchange : change target.remove (.removed target) said =
        ⟨.done answer, [.removed target answer], { said with files }⟩ := by
      simp [change, hremove]
    rw [bind_of_done hchange] at hdone ⊢
    cases answer with
    | error cause => cases hdone
    | ok value =>
        have habsent := Target.isPresent_remove (congrArg Prod.fst hremove)
        rw [hremove] at habsent
        obtain ⟨-, hpart⟩ := shrinks_write clock "Removed Successfully" .said
          { said with files } hsaid.1
        exact Target.isAbsent_of_isPart hpart habsent

theorem isPresent_of_cleanup (clock : Clock τ) {target : Target} {scene : Scene σ τ}
    {outcome : CleanupOutcome} (hopen : scene.log.handle.isSome = true)
    (hdone : (cleanup clock false target scene).ending = .done outcome) :
    target.isPresent (cleanup clock false target scene).scene.files = false := by
  cases hpresent : target.isPresent scene.files with
  | false =>
      rw [cleanup_of_absent clock false hpresent]
      exact hpresent
  | true =>
      rw [cleanup_of_present clock hpresent] at hdone ⊢
      exact isPresent_of_takeAway clock hopen hdone

/-- After a whole pass every target is absent, those dealt with first too. -/
theorem isPresent_of_cleanupAll (clock : Clock τ) {targets : List Target} {scene : Scene σ τ}
    {outcomes : List CleanupOutcome} (hopen : scene.log.handle.isSome = true)
    (hdone : (cleanupAll clock false targets scene).ending = .done outcomes) :
    ∀ target ∈ targets,
      target.isPresent (cleanupAll clock false targets scene).scene.files = false := by
  induction targets generalizing scene outcomes with
  | nil => simp
  | cons target rest ih =>
      unfold cleanupAll at hdone ⊢
      obtain ⟨outcome, events, middle, hfirst, hall⟩ := exists_of_bind_done hdone
      rw [hall] at hdone ⊢
      obtain ⟨others, more, last, hrest, hreturn⟩ := exists_of_bind_done hdone
      rw [hreturn] at hdone ⊢
      have hending : (cleanup clock false target scene).ending = .done outcome := by rw [hfirst]
      have habsent := isPresent_of_cleanup clock hopen hending
      obtain ⟨hstill, -⟩ := obeys_cleanup (cleanLaw_shrinks clock) false target scene hopen
      rw [hfirst] at habsent hstill
      obtain ⟨-, hpart⟩ := obeys_cleanupAll (cleanLaw_shrinks clock) false rest middle hstill
      have hothers : (cleanupAll clock false rest middle).ending = .done others := by rw [hrest]
      have hlast := ih hstill hothers
      rw [hrest] at hpart hlast
      intro other hother
      rcases List.mem_cons.mp hother with rfl | hother
      · exact Target.isAbsent_of_isPart hpart habsent
      · exact hlast other hother

/-- Where every target is absent, a pass only looks for them. -/
theorem cleanupAll_of_absent (clock : Clock τ) (dryRun : Bool) {targets : List Target}
    {scene : Scene σ τ} (habsent : ∀ target ∈ targets, target.isPresent scene.files = false) :
    cleanupAll clock dryRun targets scene =
      ⟨.done (targets.map fun _ => .absent), targets.map (.tested · false), scene⟩ := by
  induction targets with
  | nil => rfl
  | cons target rest ih =>
      have hfirst := cleanup_of_absent clock dryRun (habsent target (by simp))
      have hrest := ih fun other hother => habsent other (by simp [hother])
      rw [cleanupAll, bind_of_done hfirst, bind_of_done hrest]
      simp [Performance.precededBy, pure, done]

/-- A whole pass of cleaning up leaves every target absent.  A second one finds that out, logs
nothing, and changes nothing. -/
theorem cleanupAll_idempotent (clock : Clock τ) (targets : List Target) (scene : Scene σ τ)
    (outcomes : List CleanupOutcome) (hopen : scene.log.handle.isSome = true)
    (hdone : (cleanupAll clock false targets scene).ending = .done outcomes) :
    let after := (cleanupAll clock false targets scene).scene
    (∀ target ∈ targets, target.isPresent after.files = false) ∧
      cleanupAll clock false targets after =
        ⟨.done (targets.map fun _ => .absent), targets.map (.tested · false), after⟩ := by
  have habsent := isPresent_of_cleanupAll clock hopen hdone
  exact ⟨habsent, cleanupAll_of_absent clock false habsent⟩

open Rehearsal in
theorem cleanupAll_idempotent_overlapping :
    let files := ((FileSystem.empty.makeDirectory (.ofString "/opt/salt/bin")).makeLink
      (.ofString "/link") (.ofString "/opt/salt")).write (.ofString "/tmp/log") []
    let scene : Scene Scripted Time :=
      { manager := { script := {} }, clock := {}, files
        log := { path := .ofString "/tmp/log", entryPoint := "preinstall", handle := some 1 }
        progress := .fresh }
    let targets : List Target :=
      [⟨.directoryTree, .ofString "/link/bin"⟩, ⟨.directoryTree, .ofString "/link/bin/../../salt"⟩,
        ⟨.directoryTree, .ofString "/opt/../link"⟩, ⟨.symlink, .ofString "/link"⟩,
        ⟨.directoryTree, .ofString "/opt/salt"⟩, ⟨.directoryTree, .ofString "/opt/salt"⟩]
    let after := (cleanupAll Time.clock false targets scene).scene
    scene.log.handle.isSome = true ∧
      (cleanupAll Time.clock false targets scene).ending =
        .done [.removed, .absent, .removed, .absent, .removed, .absent] ∧
      (∀ target ∈ targets, target.isPresent after.files = false) ∧
      cleanupAll Time.clock false targets after =
        ⟨.done (targets.map fun _ => .absent), targets.map (.tested · false), after⟩ :=
  ⟨rfl, rfl, cleanupAll_idempotent Time.clock _ _ _ rfl rfl⟩

end Decommission.Act
