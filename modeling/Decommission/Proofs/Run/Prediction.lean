import Decommission.Proofs.FileSystem.Trail
import Decommission.Proofs.Run.Idempotence
import Decommission.Proofs.Run.Lines
import Decommission.Proofs.Run.Transcript

/-!
# What a dry pass foretells

A dry pass of cleaning up looks for every target in the files as they are at first.  A real pass
looks for each one in what the removals before it have left.  So the two differ over a target
exactly when its trail has lost an entry by then.
-/

namespace Decommission

/-! ## Targets in a part -/

namespace Target

/-- The places that are looked at to see whether the target is there. -/
def trail (target : Target) (files : FileSystem) : List Place :=
  files.trail (target.kind ≠ .symlink) target.path

/-- A target is there if its path leads to an entry of its kind. -/
theorem exists_test (target : Target) : ∃ test : Place × Entry → Bool, ∀ files,
    target.isPresent files = (files.find? (target.kind ≠ .symlink) target.path).any test := by
  cases hkind : target.kind with
  | symlink => exact ⟨_, fun files => by rw [isPresent, hkind]; rfl⟩
  | directoryTree => exact ⟨_, fun files => by rw [isPresent, hkind]; rfl⟩
  | registrationFile => exact ⟨_, fun files => by rw [isPresent, hkind]; rfl⟩

theorem exists_find? {target : Target} {files : FileSystem}
    (hpresent : target.isPresent files = true) :
    ∃ found, files.find? (target.kind ≠ .symlink) target.path = some found := by
  obtain ⟨test, htest⟩ := target.exists_test
  rw [htest] at hpresent
  cases hfind : files.find? (target.kind ≠ .symlink) target.path with
  | some found => exact ⟨found, rfl⟩
  | none =>
      rw [hfind] at hpresent
      cases hpresent

theorem entry?_of_mem_trail {target : Target} {files : FileSystem}
    (hpresent : target.isPresent files = true) :
    ∀ seen ∈ target.trail files, files.entry? seen ≠ none := by
  obtain ⟨found, hfind⟩ := exists_find? hpresent
  exact FileSystem.entry?_of_mem_trail hfind

/-- A target that is there in the whole is absent from a part if and only if an entry of its trail
is missing. -/
theorem isPresent_eq_false_iff {part whole : FileSystem} (hpart : part.IsPart whole)
    {target : Target} (hpresent : target.isPresent whole = true) :
    target.isPresent part = false ↔
      ∃ seen ∈ target.trail whole, part.entry? seen = none := by
  obtain ⟨test, htest⟩ := target.exists_test
  obtain ⟨found, hwhole⟩ := exists_find? hpresent
  rw [trail, ← hpart.find?_eq_none_iff hwhole]
  rw [htest, hwhole] at hpresent
  rw [htest]
  cases hpath : part.find? (target.kind ≠ .symlink) target.path with
  | none => simp
  | some other =>
      rw [hpart.find? hpath] at hwhole
      cases hwhole
      simpa using hpresent

end Target

/-- What becomes of a target that a dry pass says this of, when nothing else takes it. -/
def CleanupOutcome.carriedOut : CleanupOutcome → CleanupOutcome
  | .wouldRemove => .removed
  | outcome => outcome

theorem CleanupOutcome.carriedOut_ofPresent (present : Bool) :
    (ofPresent true present).carriedOut = ofPresent false present := by
  cases present <;> rfl

namespace Act

variable {σ τ : Type} {clock : Clock τ} {targets : List Target} {scene : Scene σ τ}
variable {outcomes : List CleanupOutcome}

/-! ## Single targets -/

theorem exists_events_cleanup (clock : Clock τ) (dryRun : Bool) (target : Target)
    (scene : Scene σ τ) : ∃ more, (cleanup clock dryRun target scene).events =
      .tested target (target.isPresent scene.files) :: more := by
  have hlook : look target.isPresent (.tested target) scene =
      ⟨.done (target.isPresent scene.files),
        [.tested target (target.isPresent scene.files)], scene⟩ := rfl
  exact ⟨_, congrArg Performance.events (bind_of_done hlook)⟩

/-- What becomes of a target depends on whether it is there. -/
theorem outcome_of_cleanup {dryRun : Bool} {target : Target} {outcome : CleanupOutcome}
    (hdone : (cleanup clock dryRun target scene).ending = .done outcome) :
    outcome = .ofPresent dryRun (target.isPresent scene.files) := by
  have hshape := (shows_cleanup clock dryRun target scene ⟨rfl, rfl⟩).1
  obtain ⟨more, hevents⟩ := exists_events_cleanup clock dryRun target scene
  rw [hdone, hevents] at hshape
  generalize target.isPresent scene.files = present at hshape
  cases hshape with
  | absent => rfl
  | rehearsed hdry | removed hdry =>
      subst hdry
      rfl

/-! ## Dry passes -/

/-- With its log open, a dry pass finds of each target whether it is there at first. -/
theorem ending_cleanupAll_dry (clock : Clock τ) (targets : List Target) {files : FileSystem}
    (hopen : scene.log.handle.isSome = true) (hpart : scene.files.IsPart files)
    (hwhole : files.IsPart scene.files) :
    (cleanupAll clock true targets scene).ending =
      .done (targets.map fun target => .ofPresent true (target.isPresent files)) := by
  induction targets generalizing scene with
  | nil => rfl
  | cons target rest ih =>
      have hshape := (shows_cleanup clock true target scene ⟨rfl, rfl⟩).1
      have hlogs := onlyLogs_cleanup clock target scene
      obtain ⟨hstill, hshrinks⟩ := obeys_cleanup (cleanLaw_shrinks clock) true target scene hopen
      obtain ⟨outcome, hdone⟩ := hshape.exists_done
      have houtcome := outcome_of_cleanup hdone
      rw [target.isPresent_congr hpart hwhole] at houtcome
      have hrest := ih hstill (hshrinks.trans hpart) (hwhole.trans hlogs.isPart)
      have hfirst : cleanup clock true target scene = ⟨.done outcome,
          (cleanup clock true target scene).events, (cleanup clock true target scene).scene⟩ := by
        rw [← hdone]
      rw [cleanupAll, bind_of_done hfirst, List.map_cons, ← houtcome]
      rw [perform_map]
      exact congrArg (Ending.map (outcome :: ·)) hrest

/-! ## Passes target by target -/

/-- The scene in which a pass comes to the target at an index. -/
def sceneAt (clock : Clock τ) (targets : List Target) (scene : Scene σ τ) (index : Nat) :
    Scene σ τ :=
  (cleanupAll clock false (targets.take index) scene).scene

theorem sceneAt_zero (clock : Clock τ) (targets : List Target) (scene : Scene σ τ) :
    sceneAt clock targets scene 0 = scene := rfl

theorem sceneAt_cons {target : Target} {rest : List Target} {outcome : CleanupOutcome}
    {events : List Event} {middle : Scene σ τ}
    (hfirst : cleanup clock false target scene = ⟨.done outcome, events, middle⟩) (index : Nat) :
    sceneAt clock (target :: rest) scene (index + 1) = sceneAt clock rest middle index := by
  unfold sceneAt
  rw [List.take_succ_cons, cleanupAll, bind_of_done hfirst, perform_map]
  rfl

/-- A whole pass has an outcome for the target at an index, and goes on from there. -/
theorem cleanup_sceneAt {index : Nat} {target : Target}
    (hdone : (cleanupAll clock false targets scene).ending = .done outcomes)
    (htarget : targets[index]? = some target) :
    outcomes[index]? = some (.ofPresent false
        (target.isPresent (sceneAt clock targets scene index).files)) ∧
      sceneAt clock targets scene (index + 1) =
        (cleanup clock false target (sceneAt clock targets scene index)).scene := by
  induction targets generalizing scene outcomes index with
  | nil => cases htarget
  | cons first rest ih =>
      unfold cleanupAll at hdone
      obtain ⟨outcome, events, middle, hfirst, hall⟩ := exists_of_bind_done hdone
      rw [hall] at hdone
      obtain ⟨others, more, last, hrest, hreturn⟩ := exists_of_bind_done hdone
      rw [hreturn] at hdone
      cases hdone
      cases index with
      | zero =>
          cases htarget
          have houtcome := outcome_of_cleanup (congrArg Performance.ending hfirst)
          rw [sceneAt_cons hfirst, sceneAt_zero, sceneAt_zero, hfirst]
          exact ⟨congrArg some houtcome, rfl⟩
      | succ index =>
          have hothers : (cleanupAll clock false rest middle).ending = .done others :=
            congrArg Performance.ending hrest
          rw [List.getElem?_cons_succ] at htarget ⊢
          rw [sceneAt_cons hfirst, sceneAt_cons hfirst]
          exact ih hothers htarget

theorem isPart_sceneAt (hopen : scene.log.handle.isSome = true)
    (hdone : (cleanupAll clock false targets scene).ending = .done outcomes) {first last : Nat}
    (horder : first ≤ last) (hlast : last ≤ targets.length) :
    (sceneAt clock targets scene last).files.IsPart (sceneAt clock targets scene first).files := by
  induction horder with
  | refl => exact FileSystem.IsPart.refl _
  | @step last horder ih =>
      obtain ⟨-, hnext⟩ := cleanup_sceneAt hdone (List.getElem?_eq_getElem hlast)
      have hstill := (obeys_cleanupAll (cleanLaw_shrinks clock) false (targets.take last) scene
        hopen).1
      have hshrinks := (obeys_cleanup (cleanLaw_shrinks clock) false targets[last]
        (sceneAt clock targets scene last) hstill).2
      rw [hnext]
      exact hshrinks.trans (ih (Nat.le_of_succ_le hlast))

/-- In dealing with the target at an index a pass removes the entry at a place. -/
def TakesAt (clock : Clock τ) (targets : List Target) (scene : Scene σ τ) (index : Nat)
    (place : Place) : Prop :=
  (sceneAt clock targets scene index).files.entry? place ≠ none ∧
    (sceneAt clock targets scene (index + 1)).files.entry? place = none

/-- What has gone by the time of a target was taken when an earlier one was dealt with. -/
theorem exists_takesAt {index : Nat} {place : Place} (hfirst : scene.files.entry? place ≠ none)
    (hgone : (sceneAt clock targets scene index).files.entry? place = none) :
    ∃ earlier < index, TakesAt clock targets scene earlier place := by
  induction index with
  | zero => exact absurd hgone hfirst
  | succ index ih =>
      by_cases hbefore : (sceneAt clock targets scene index).files.entry? place = none
      · obtain ⟨earlier, hless, htakes⟩ := ih hbefore
        exact ⟨earlier, Nat.lt_succ_of_lt hless, htakes⟩
      · exact ⟨index, Nat.lt_succ_self index, hbefore, hgone⟩

/-- Only a target that is removed takes anything. -/
theorem removed_of_takesAt {index : Nat} {place : Place}
    (hdone : (cleanupAll clock false targets scene).ending = .done outcomes)
    (hindex : index < targets.length) (htakes : TakesAt clock targets scene index place) :
    outcomes[index]? = some .removed := by
  obtain ⟨houtcome, hnext⟩ := cleanup_sceneAt hdone (List.getElem?_eq_getElem hindex)
  cases hpresent : targets[index].isPresent (sceneAt clock targets scene index).files with
  | true =>
      rw [houtcome, hpresent]
      rfl
  | false =>
      obtain ⟨hbefore, hafter⟩ := htakes
      rw [hnext, cleanup_of_absent clock false hpresent] at hafter
      exact absurd hafter hbefore

/-! ## Predictions -/

/-- How a dry pass foretells a real one. -/
structure Foretells (clock : Clock τ) (targets : List Target) (scene : Scene σ τ)
    (foretold outcomes : List CleanupOutcome) : Prop where
  foretold_length : foretold.length = targets.length
  outcomes_length : outcomes.length = targets.length
  absent : ∀ index : Nat, foretold[index]? = some .absent → outcomes[index]? = some .absent
  removed : ∀ index : Nat, outcomes[index]? = some .removed → foretold[index]? = some .wouldRemove
  /-- A target that was there at first is only missed for an entry of its trail that the removal of
  an earlier one took. -/
  missed : ∀ (index : Nat) target, targets[index]? = some target →
    foretold[index]? = some .wouldRemove →
      (outcomes[index]? = some .absent ↔ ∃ earlier < index, outcomes[earlier]? = some .removed ∧
        ∃ place ∈ target.trail scene.files, TakesAt clock targets scene earlier place)
  /-- When no target has on its trail what another one takes, all comes as foretold. -/
  carriedOut : (∀ (index : Nat) target, targets[index]? = some target → ∀ other, other ≠ index →
      ∀ place ∈ target.trail scene.files, ¬TakesAt clock targets scene other place) →
    outcomes = foretold.map CleanupOutcome.carriedOut

theorem length_outcomes (hdone : (cleanupAll clock false targets scene).ending = .done outcomes) :
    outcomes.length = targets.length := by
  have hshape := (shows_cleanupAll clock false targets scene ⟨rfl, rfl⟩).1
  rw [hdone] at hshape
  obtain ⟨finds, rfl, -, rfl⟩ := hshape.exists_present
  simp

/-- In a whole pass, a target that was there at first is only missed for an entry of its trail. -/
theorem isPresent_sceneAt_eq_false_iff (hopen : scene.log.handle.isSome = true)
    (hdone : (cleanupAll clock false targets scene).ending = .done outcomes) {index : Nat}
    {target : Target} (hindex : index < targets.length)
    (hpresent : target.isPresent scene.files = true) :
    target.isPresent (sceneAt clock targets scene index).files = false ↔
      ∃ earlier < index, outcomes[earlier]? = some .removed ∧
        ∃ place ∈ target.trail scene.files, TakesAt clock targets scene earlier place := by
  have hpart := isPart_sceneAt hopen hdone (Nat.zero_le index) (Nat.le_of_lt hindex)
  rw [Target.isPresent_eq_false_iff hpart hpresent]
  constructor
  · rintro ⟨place, hplace, hgone⟩
    obtain ⟨earlier, hless, htakes⟩ :=
      exists_takesAt (Target.entry?_of_mem_trail hpresent place hplace) hgone
    have hremoved := removed_of_takesAt hdone (Nat.lt_trans hless hindex) htakes
    exact ⟨earlier, hless, hremoved, place, hplace, htakes⟩
  · rintro ⟨earlier, hless, -, place, hplace, -, hgone⟩
    have hlater := isPart_sceneAt hopen hdone (Nat.succ_le_of_lt hless) (Nat.le_of_lt hindex)
    exact ⟨place, hplace, hlater.entry?_eq_none hgone⟩

/-- A dry pass of cleaning up foretells a real one that succeeds: where they differ, the path of the
target led through an entry that has been removed with an earlier target. -/
theorem cleanupAll_foretold (clock : Clock τ) (targets : List Target) (scene : Scene σ τ)
    (outcomes : List CleanupOutcome) (hopen : scene.log.handle.isSome = true)
    (hdone : (cleanupAll clock false targets scene).ending = .done outcomes) :
    ∃ foretold, (cleanupAll clock true targets scene).ending = .done foretold ∧
      Foretells clock targets scene foretold outcomes := by
  have hlength := length_outcomes hdone
  have hdry := ending_cleanupAll_dry clock targets hopen (.refl _) (.refl _)
  have hpart : ∀ {index : Nat} {target}, targets[index]? = some target →
      (sceneAt clock targets scene index).files.IsPart scene.files := by
    intro index target htarget
    obtain ⟨hindex, -⟩ := List.getElem?_eq_some_iff.mp htarget
    exact isPart_sceneAt hopen hdone (Nat.zero_le index) (Nat.le_of_lt hindex)
  refine ⟨_, hdry, by simp, hlength, ?absent, ?removed, ?missed, ?carriedOut⟩
  case absent =>
    intro index hforetold
    rw [List.getElem?_map, Option.map_eq_some_iff] at hforetold
    obtain ⟨target, htarget, hoff⟩ := hforetold
    have habsent := CleanupOutcome.ofPresent_eq_absent.mp hoff
    rw [(cleanup_sceneAt hdone htarget).1, Option.some_inj, CleanupOutcome.ofPresent_eq_absent]
    exact Target.isAbsent_of_isPart (hpart htarget) habsent
  case removed =>
    intro index hremoved
    obtain ⟨hindex, -⟩ := List.getElem?_eq_some_iff.mp hremoved
    have htarget := List.getElem?_eq_getElem (hlength ▸ hindex)
    rw [(cleanup_sceneAt hdone htarget).1, Option.some_inj,
      CleanupOutcome.ofPresent_eq_removed] at hremoved
    rw [List.getElem?_map, htarget, Option.map_some, Option.some_inj,
      CleanupOutcome.ofPresent_eq_wouldRemove]
    exact ⟨Target.isPresent_of_isPart (hpart htarget) hremoved.1, rfl⟩
  case missed =>
    intro index target htarget hforetold
    obtain ⟨hindex, -⟩ := List.getElem?_eq_some_iff.mp htarget
    rw [List.getElem?_map, htarget, Option.map_some, Option.some_inj,
      CleanupOutcome.ofPresent_eq_wouldRemove] at hforetold
    rw [(cleanup_sceneAt hdone htarget).1, Option.some_inj, CleanupOutcome.ofPresent_eq_absent]
    exact isPresent_sceneAt_eq_false_iff hopen hdone hindex hforetold.1
  case carriedOut =>
    intro hapart
    apply List.ext_getElem?
    intro index
    rw [List.map_map, List.getElem?_map]
    cases htarget : targets[index]? with
    | none =>
        rw [List.getElem?_eq_none_iff, ← hlength] at htarget
        exact List.getElem?_eq_none htarget
    | some target =>
        obtain ⟨hindex, -⟩ := List.getElem?_eq_some_iff.mp htarget
        have hsame : target.isPresent (sceneAt clock targets scene index).files =
            target.isPresent scene.files := by
          cases hpresent : target.isPresent scene.files with
          | false => exact Target.isAbsent_of_isPart (hpart htarget) hpresent
          | true =>
              rw [← Bool.not_eq_false, isPresent_sceneAt_eq_false_iff hopen hdone hindex hpresent]
              rintro ⟨earlier, hless, -, place, hplace, htakes⟩
              exact hapart index target htarget earlier (Nat.ne_of_lt hless) place hplace htakes
        rw [(cleanup_sceneAt hdone htarget).1, hsame, Option.map_some, Function.comp_apply,
          CleanupOutcome.carriedOut_ofPresent]

open Rehearsal in
theorem cleanupAll_foretold_linked :
    let files := ((((FileSystem.empty.makeDirectory (.ofString "/opt/salt/bin")).makeLink
      (.ofString "/link") (.ofString "/opt/salt")).write (.ofString "/opt/paths") []).write
        (.ofString "/tmp/log") [])
    let scene : Scene Scripted Time :=
      { manager := { script := {} }, clock := {}, files
        log := { path := .ofString "/tmp/log", entryPoint := "preinstall", handle := some 2 }
        progress := .fresh }
    let targets : List Target :=
      [⟨.symlink, .ofString "/link"⟩, ⟨.directoryTree, .ofString "/link/bin"⟩,
        ⟨.directoryTree, .ofString "/opt/salt"⟩, ⟨.directoryTree, .ofString "/opt/salt/bin"⟩,
        ⟨.registrationFile, .ofString "/opt/paths"⟩, ⟨.symlink, .ofString "/opt/salt"⟩]
    scene.log.handle.isSome = true ∧
      (cleanupAll Time.clock false targets scene).ending =
        .done [.removed, .absent, .removed, .absent, .removed, .absent] ∧
      (cleanupAll Time.clock true targets scene).ending =
        .done [.wouldRemove, .wouldRemove, .wouldRemove, .wouldRemove, .wouldRemove, .absent] ∧
      ∃ foretold, (cleanupAll Time.clock true targets scene).ending = .done foretold ∧
        Foretells Time.clock targets scene foretold
          [.removed, .absent, .removed, .absent, .removed, .absent] :=
  ⟨rfl, rfl, rfl, cleanupAll_foretold Time.clock _ _ _ rfl rfl⟩

end Act

end Decommission
