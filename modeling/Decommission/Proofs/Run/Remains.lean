import Decommission.Proofs.FileSystem.Trail
import Decommission.Proofs.Run.Frame
import Decommission.Proofs.Run.Idempotence

/-!
# What a removal leaves behind

A removal that is reported has taken the entry that the path of the target named: a link, a file, or
a directory with everything below it.  There is one exception.  A path can lead to a directory
through places below it.  Once these are gone the path leads nowhere, which counts as success, and
the directory stays where it is, empty.
-/

namespace Decommission

namespace FileSystem

/-- The path leads to a directory through a place below it. -/
def LeadsThrough (files : FileSystem) (path : Path) (place : Place) (entry : Entry) : Prop :=
  entry.isDirectory = true ∧ ∃ seen ∈ files.trail false path, seen.isBelow place = true

/-- What is left of the entry that a path names once that has been removed. -/
structure Leaves (files : FileSystem) (path : Path) (place : Place) (entry : Entry)
    (after : FileSystem) : Prop where
  emptied : entry.isDirectory = true → ∀ other : Place, other.isBelow place = true →
    after.entry? other = none
  gone : ¬files.LeadsThrough path place entry → after.entry? place = none
  kept : files.LeadsThrough path place entry → after.entry? place = some entry

variable {files : FileSystem} {path : Path} {place : Place} {entry : Entry}

theorem leaves_unlink (hfind : files.find? false path = some (place, entry))
    (hunlink : (files.unlink path).1 = .ok () ∨ (files.unlink path).1 = .error (.os .noEntry)) :
    files.Leaves path place entry (files.unlink path).2 := by
  unfold unlink at hunlink ⊢
  cases hremove : files.removeFile path with
  | error error =>
      rw [hremove] at hunlink
      obtain hunlink | hunlink := hunlink
      · cases hunlink
      · cases hunlink
        rw [find?_eq_none_of_removeFile false hremove] at hfind
        cases hfind
  | ok after =>
      obtain ⟨parent, name, named, hnames, hdirectory, hslash, rfl⟩ := removeFile_eq_ok hremove
      have hnamed := hnames.find?_false (by simp [hslash])
      rw [hfind] at hnamed
      cases hnamed
      have hapart : ¬files.LeadsThrough path (parent ++ [name]) entry := by
        rintro ⟨hisDirectory, -⟩
        rw [hdirectory] at hisDirectory
        cases hisDirectory
      exact
        { emptied := fun hisDirectory => by simp [hdirectory] at hisDirectory
          gone := fun _ => files.entry?_drop_self (by simp)
          kept := fun hthrough => absurd hthrough hapart }

section Emptied

variable {left : FileSystem}

/-- Emptying a directory takes what is below it, and nothing else. -/
theorem entry?_emptied (heach : removeEach (files.below place) files = (.ok (), left))
    (other : Place) :
    left.entry? other = if other.isBelow place = true then none else files.entry? other := by
  have hleft := entry?_removeEach files.ne_nil_of_mem_below (congrArg Prod.fst heach) other
  rw [heach] at hleft
  by_cases hbelow : other.isBelow place = true
  · rw [if_pos hbelow]
    by_cases hmem : other ∈ files.below place
    · rwa [if_pos hmem] at hleft
    · rw [if_neg hmem] at hleft
      cases hentry : files.entry? other with
      | none => exact hleft.trans hentry
      | some entry =>
          have hinside := files.mem_entries_of_entry? (Place.ne_nil_of_isBelow hbelow) hentry
          exact absurd (files.mem_below.mpr ⟨⟨entry, hinside⟩, hbelow⟩) hmem
  · have hmem : other ∉ files.below place := fun hmem => hbelow (files.mem_below.mp hmem).2
    rw [if_neg hbelow]
    rwa [if_neg hmem] at hleft

theorem isPart_emptied (heach : removeEach (files.below place) files = (.ok (), left)) :
    left.IsPart files := by
  have hloses := removeEach_loses (files.below place) files files.ne_nil_of_mem_below
  rw [heach] at hloses
  exact hloses.isPart

/-- The path of a directory that has been emptied leads nowhere if and only if it led through what
was below. -/
theorem find?_emptied_eq_none_iff {guard : Option Guard}
    (hfind : files.find? false path = some (place, .directory guard))
    (heach : removeEach (files.below place) files = (.ok (), left)) :
    left.find? false path = none ↔ files.LeadsThrough path place (.directory guard) := by
  rw [(isPart_emptied heach).find?_eq_none_iff hfind]
  constructor
  · rintro ⟨seen, hseen, hmissing⟩
    refine ⟨rfl, seen, hseen, ?_⟩
    by_contra habove
    rw [entry?_emptied heach, if_neg habove] at hmissing
    exact entry?_of_mem_trail hfind seen hseen hmissing
  · rintro ⟨-, seen, hseen, hbelow⟩
    exact ⟨seen, hseen, by rw [entry?_emptied heach, if_pos hbelow]⟩

end Emptied

theorem leaves_removeTree (hfind : files.find? false path = some (place, entry))
    (hremove : (files.removeTree path).1 = .ok () ∨
      (files.removeTree path).1 = .error (.os .noEntry)) :
    files.Leaves path place entry (files.removeTree path).2 := by
  have hcases := files.removeTree_cases path
  generalize files.removeTree path = removed at hremove hcases ⊢
  cases hcases with
  | nowhere hnone =>
      rw [hnone] at hfind
      cases hfind
  | noDirectory => obtain hremove | hremove := hremove <;> cases hremove
  | link hlink => exact leaves_unlink hfind hremove
  | @notEmptied top guard error left _ heach =>
      have hdenied := removeEach_ne_noEntry (files.below top) files
      rw [heach] at hdenied
      exact absurd hremove (by simpa using hdenied)
  | kept _ _ _ hfound => exact absurd hremove (by simpa using hfound)
  | lost hnamed heach hdirectory =>
      rw [hfind] at hnamed
      cases hnamed
      have hnowhere := find?_eq_none_of_removeDirectory false hdirectory
      have hthrough := (find?_emptied_eq_none_iff hfind heach).mp hnowhere
      have hstays := entry?_emptied heach place
      rw [if_neg (by simp [Place.isBelow]), entry?_of_find? hfind] at hstays
      exact
        { emptied := fun _ other hbelow => by rw [entry?_emptied heach, if_pos hbelow]
          gone := fun hapart => absurd hthrough hapart
          kept := fun _ => hstays }
  | @complete top guard left after hnamed heach hdirectory =>
      rw [hfind] at hnamed
      cases hnamed
      obtain ⟨parent, name, named, hnames, hisDirectory, -, rfl⟩ := removeDirectory_eq_ok hdirectory
      have hstill := hnames.find?_false fun _ => hisDirectory
      have hnamed := (isPart_emptied heach).find? hstill
      rw [hfind] at hnamed
      cases hnamed
      have hapart : ¬files.LeadsThrough path (parent ++ [name]) (.directory guard) := by
        rw [← find?_emptied_eq_none_iff hfind heach, hstill]
        simp
      exact
        { emptied := fun _ other hbelow => by
            have hne : other ≠ parent ++ [name] := by
              rintro rfl
              simp [Place.isBelow] at hbelow
            rw [entry?_drop_of_ne _ hne, entry?_emptied heach, if_pos hbelow]
          gone := fun _ => entry?_drop_self _ (by simp)
          kept := fun hthrough => absurd hthrough hapart }

end FileSystem

/-- What a removal that succeeds leaves of the entry that the path of the target names. -/
theorem Target.leaves_remove {target : Target} {files : FileSystem} {place : Place} {entry : Entry}
    (hfind : files.find? false target.path = some (place, entry))
    (hremove : (target.remove files).1 = .ok ()) :
    files.Leaves target.path place entry (target.remove files).2 := by
  have hattempt := Target.forgive_eq_ok hremove
  show files.Leaves target.path place entry (target.attempt files).2
  unfold Target.attempt at hattempt ⊢
  cases hkind : target.kind with
  | directoryTree =>
      rw [hkind] at hattempt
      exact FileSystem.leaves_removeTree hfind hattempt
  | symlink | registrationFile =>
      rw [hkind] at hattempt
      exact FileSystem.leaves_unlink hfind hattempt

/-- The path of a target that is there names an entry. -/
theorem Target.exists_find?_of_isPresent {target : Target} {files : FileSystem}
    (hpresent : target.isPresent files = true) :
    ∃ place entry, files.find? false target.path = some (place, entry) := by
  have hfollowed (test : Place × Entry → Bool)
      (hany : (files.find? true target.path).any test = true) :
      ∃ place entry, files.find? false target.path = some (place, entry) := by
    obtain ⟨⟨place, entry⟩, hfind, -⟩ := (Option.any_eq_true _ _).mp hany
    exact FileSystem.exists_find?_false hfind
  unfold Target.isPresent at hpresent
  cases hkind : target.kind with
  | symlink =>
      rw [hkind] at hpresent
      obtain ⟨⟨place, entry⟩, hfind, -⟩ := (Option.any_eq_true _ _).mp hpresent
      exact ⟨place, entry, hfind⟩
  | directoryTree | registrationFile =>
      rw [hkind] at hpresent
      exact hfollowed _ hpresent

/-- More files make no difference to a path that leads somewhere. -/
theorem FileSystem.IsPart.leaves_iff {part whole after : FileSystem} (hpart : part.IsPart whole)
    {path : Path} {place : Place} {entry : Entry}
    (hfind : part.find? false path = some (place, entry)) :
    whole.Leaves path place entry after ↔ part.Leaves path place entry after := by
  have hsame : ∀ seen ∈ part.trail false path, whole.entry? seen = part.entry? seen := by
    intro seen hseen
    obtain ⟨found, hfound⟩ :=
      Option.ne_none_iff_exists'.mp (FileSystem.entry?_of_mem_trail hfind seen hseen)
    rw [hfound, hpart.entry seen found hfound]
  have hthrough : whole.LeadsThrough path place entry ↔ part.LeadsThrough path place entry := by
    unfold FileSystem.LeadsThrough
    rw [(FileSystem.find?_congr hpart.here.symm hsame).1]
  constructor
  · rintro ⟨hemptied, hgone, hkept⟩
    exact ⟨hemptied, by rwa [hthrough] at hgone, by rwa [hthrough] at hkept⟩
  · rintro ⟨hemptied, hgone, hkept⟩
    exact ⟨hemptied, by rwa [hthrough], by rwa [hthrough]⟩

/-- A line takes no entry away. -/
theorem Moment.isPart_written (moment : Moment) (stamp : Stamp) (message : String) :
    moment.files.IsPart (moment.written stamp message).files := by
  rcases moment.written_cases stamp message with hsame | ⟨object, opened, bytes, hattach, hwritten⟩
  · rw [hsame]
    exact FileSystem.IsPart.refl _
  · rw [hwritten]
    have hopened := RunLog.isPart_attach hattach
    exact ⟨hopened.here, hopened.entry⟩

namespace Act

variable {σ τ : Type}

/-- A removal that was reported: what had become of the entry that the path named beforehand by the
time of the report, and what can have come since. -/
structure Reports (target : Target) (start : Scene σ τ)
    (performed : Performance σ τ CleanupOutcome) (place : Place) (entry : Entry) : Prop where
  named : start.files.find? false target.path = some (place, entry)
  reported : ∃ earlier stamp,
    performed.events = earlier ++ [.said stamp "Removed Successfully"] ∧
      start.files.Leaves target.path place entry (start.moment.replay earlier).files ∧
      ∀ other found, performed.scene.files.entry? other = some found →
        (start.moment.replay earlier).files.entry? other = some found ∨
          ∃ object, (start.moment.replay earlier).Opens object ∧ found = .file object

/-- A target that is reported as removed is gone, unless its path led through what was below it.
One that is reported as absent leaves everything as it was. -/
theorem cleanup_reports (clock : Clock τ) (target : Target) (scene : Scene σ τ) :
    let performed := cleanup clock false target scene
    (performed.ending = .done .removed →
      ∃ place entry, Reports target scene performed place entry) ∧
    (performed.ending = .done .absent → performed.scene = scene) := by
  have hshape := (shows_cleanup clock false target scene ⟨rfl, rfl⟩).1
  obtain ⟨hmoment, htrue⟩ := obeys_cleanup (cleanLaw_accounts clock) false target scene
  generalize hevents : (cleanup clock false target scene).events = events at hshape hmoment htrue
  refine ⟨fun hremoved => ?_, fun habsent => ?_⟩
  · rw [hremoved] at hshape
    cases hshape with
    | @removed stamp stamp' =>
        obtain ⟨hpresent, -, hanswer, -⟩ := htrue
        obtain ⟨place, entry, hfind⟩ := Target.exists_find?_of_isPresent hpresent.symm
        have hpart := scene.moment.isPart_written stamp ("Removing " ++ target.path.display)
        have hleaves := Target.leaves_remove (hpart.find? hfind) hanswer.symm
        rw [hpart.leaves_iff hfind] at hleaves
        refine ⟨place, entry, hfind,
          [.tested target true, .said stamp _, .removed target (.ok ())], stamp', hevents, hleaves,
          fun other found hfound => ?_⟩
        have hlast : (cleanup clock false target scene).scene.files = _ :=
          congrArg Moment.files hmoment
        rw [hlast] at hfound
        rcases Moment.entry?_of_after (.said stamp' "Removed Successfully") hfound with
          hbefore | ⟨object, hopens, -, hfile, -⟩
        · exact .inl hbefore
        · exact .inr ⟨object, hopens, hfile⟩
  · rw [habsent] at hshape
    cases hshape with
    | absent => rw [cleanup_of_absent clock false htrue.1.symm]

open Rehearsal

/-- A link in the place of a directory goes; the directory that it leads to stays. -/
theorem cleanup_reports_link :
    let scene : Scene Scripted Time :=
      { manager.script := {}
        clock := {}
        files := ((FileSystem.empty.makeDirectory (.ofString "/tmp")).makeDirectory
          (.ofString "/data/salt")).makeLink (.ofString "/opt/salt") (.ofString "../data/salt")
        log := .opened Config.defaultLogPath "preinstall"
        progress := .fresh }
    let target : Target := ⟨.directoryTree, .ofString "/tmp/../opt/./salt"⟩
    let performed := cleanup Time.clock false target scene
    performed.ending = .done .removed ∧
      performed.scene.files.find? false (.ofString "/opt/salt") = none ∧
      (performed.scene.files.find? false (.ofString "/data/salt")).isSome ∧
      ∃ place entry, Reports target scene performed place entry :=
  ⟨rfl, rfl, rfl, (cleanup_reports _ _ _).1 rfl⟩

/-- A directory whose path leads through what is below it is emptied, stays, and is reported as
removed. -/
theorem exists_kept_directory :
    let scene : Scene Scripted Time :=
      { manager.script := {}
        clock := {}
        files := (FileSystem.empty.makeDirectory (.ofString "/tmp")).makeDirectory
          (.ofString "/opt/salt/bin")
        log := .opened Config.defaultLogPath "preinstall"
        progress := .fresh }
    let target : Target := ⟨.directoryTree, .ofString "/opt/salt/bin/../../salt"⟩
    let performed := cleanup Time.clock false target scene
    target.path.isAbsolute = true ∧ performed.ending = .done .removed ∧
      ∃ place entry, scene.files.find? false target.path = some (place, entry) ∧
        performed.scene.files.entry? place = some entry :=
  ⟨rfl, rfl, [bytesOf "opt", bytesOf "salt"], .directory none, rfl, rfl⟩

end Act

end Decommission
