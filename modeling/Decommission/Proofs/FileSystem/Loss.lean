import Decommission.Proofs.FileSystem.Removal

/-!
# What removals take away

Nothing but entries is lost, and only those that the path of a removal names or that lie below them.
Once a removal has succeeded its path leads nowhere.
-/

namespace Decommission.FileSystem

variable {files : FileSystem}

/-! ## What is lost -/

/-- Some of these places have lost their entries, and nothing else has changed. -/
structure Loses (before after : FileSystem) (places : Place → Prop) : Prop where
  here : after.here = before.here
  root : after.root = before.root
  objects : after.objects = before.objects
  entries : ∀ place, after.entry? place = before.entry? place ∨
    after.entry? place = none ∧ places place

namespace Loses

variable {before middle after : FileSystem} {places others : Place → Prop}

theorem refl (files : FileSystem) (places : Place → Prop) : files.Loses files places :=
  ⟨rfl, rfl, rfl, fun _ => Or.inl rfl⟩

theorem trans (hfirst : before.Loses middle places) (hsecond : middle.Loses after places) :
    before.Loses after places := by
  refine ⟨hsecond.here.trans hfirst.here, hsecond.root.trans hfirst.root,
    hsecond.objects.trans hfirst.objects, fun place => ?_⟩
  rcases hsecond.entries place with hsame | hgone
  · rw [hsame]
    exact hfirst.entries place
  · exact Or.inr hgone

theorem mono (hloses : before.Loses after places) (hmore : ∀ place, places place → others place) :
    before.Loses after others :=
  ⟨hloses.here, hloses.root, hloses.objects,
    fun place => (hloses.entries place).imp_right fun hgone => ⟨hgone.1, hmore place hgone.2⟩⟩

theorem drop (files : FileSystem) {place : Place} (hne : place ≠ []) (hplace : places place) :
    files.Loses (files.drop place) places := by
  refine ⟨rfl, rfl, rfl, fun other => ?_⟩
  by_cases hother : other = place
  · subst hother
    exact Or.inr ⟨entry?_drop_self files hne, hplace⟩
  · exact Or.inl (entry?_drop_of_ne files hother)

theorem isPart (hloses : before.Loses after places) : after.IsPart before := by
  refine ⟨hloses.here, fun place entry hentry => ?_⟩
  rcases hloses.entries place with hsame | ⟨hgone, -⟩
  · rwa [← hsame]
  · rw [hgone] at hentry
    cases hentry

end Loses

theorem removeFile_loses {path : Path} {after : FileSystem}
    (hremove : files.removeFile path = .ok after) :
    files.Loses after fun place => ∃ entry, files.find? false path = some (place, entry) := by
  obtain ⟨parent, name, entry, hnames, -, hslash, rfl⟩ := removeFile_eq_ok hremove
  have hfind := hnames.find?_false (by simp [hslash])
  exact Loses.drop files (by simp) ⟨entry, hfind⟩

theorem unlink_loses (files : FileSystem) (path : Path) :
    files.Loses (files.unlink path).2 fun place =>
      ∃ entry, files.find? false path = some (place, entry) := by
  unfold unlink
  cases hremove : files.removeFile path with
  | error error => exact Loses.refl files _
  | ok after => exact removeFile_loses hremove

theorem removeDirectory_loses {path : Path} {after : FileSystem}
    (hremove : files.removeDirectory path = .ok after) :
    files.Loses after fun place => ∃ entry, files.find? false path = some (place, entry) := by
  obtain ⟨parent, name, entry, hnames, hdirectory, -, rfl⟩ := removeDirectory_eq_ok hremove
  have hfind := hnames.find?_false fun _ => hdirectory
  exact Loses.drop files (by simp) ⟨entry, hfind⟩

theorem removeEach_loses (places : List Place) (files : FileSystem)
    (hne : ∀ place ∈ places, place ≠ []) :
    files.Loses (removeEach places files).2 (· ∈ places) := by
  induction places generalizing files with
  | nil => exact Loses.refl files _
  | cons place places ih =>
      unfold removeEach
      split
      · exact Loses.refl files _
      · have hplace := hne place (by simp)
        have hdrop : files.Loses (files.drop place) (· ∈ place :: places) :=
          Loses.drop files hplace (by simp)
        have hrest := ih (files.drop place) fun other hother => hne other (by simp [hother])
        exact hdrop.trans (hrest.mono fun other hother => by simp [hother])

/-- The place a path leads to when its last name is not followed, and those below if a directory is
there. -/
def TreeAt (files : FileSystem) (path : Path) (place : Place) : Prop :=
  (∃ entry, files.find? false path = some (place, entry)) ∨
    ∃ top guard, files.find? false path = some (top, .directory guard) ∧ place ∈ files.below top

theorem removeTree_loses (files : FileSystem) (path : Path) :
    files.Loses (files.removeTree path).2 (files.TreeAt path) := by
  have hbelow : ∀ {place guard answer left},
      files.find? false path = some (place, .directory guard) →
        removeEach (files.below place) files = (answer, left) →
          files.Loses left (files.TreeAt path) := by
    intro place guard answer left hfind heach
    have hloses := removeEach_loses (files.below place) files files.ne_nil_of_mem_below
    rw [heach] at hloses
    exact hloses.mono fun other hother => Or.inr ⟨place, guard, hfind, hother⟩
  have hcases := files.removeTree_cases path
  generalize files.removeTree path = removed at hcases ⊢
  cases hcases with
  | nowhere | noDirectory => exact Loses.refl files _
  | link => exact (unlink_loses files path).mono fun _ => Or.inl
  | notEmptied hfind heach | kept hfind heach | lost hfind heach => exact hbelow hfind heach
  | complete hfind heach hdirectory =>
      have hleft := hbelow hfind heach
      refine hleft.trans ((removeDirectory_loses hdirectory).mono ?_)
      rintro other ⟨entry, hother⟩
      exact Or.inl ⟨entry, hleft.isPart.find? hother⟩

/-! ## Paths that lead nowhere any more -/

theorem find?_of_removeFile {path : Path} {after : FileSystem} (follow : Bool)
    (hremove : files.removeFile path = .ok after) : after.find? follow path = none := by
  obtain ⟨parent, name, entry, hnames, -, -, rfl⟩ := removeFile_eq_ok hremove
  exact hnames.find?_drop follow

/-- An entry that was removed, or was not found in the first place, is not found any more. -/
theorem find?_of_unlink {path : Path} (follow : Bool)
    (hremove : (files.unlink path).1 = .ok () ∨
      (files.unlink path).1 = .error (.os .noEntry)) :
    (files.unlink path).2.find? follow path = none := by
  unfold unlink at hremove ⊢
  cases hfile : files.removeFile path with
  | ok after => exact find?_of_removeFile follow hfile
  | error error =>
      rw [hfile] at hremove
      obtain rfl : error = .os .noEntry := by simpa using hremove
      exact find?_eq_none_of_removeFile follow hfile

theorem find?_of_removeDirectory {path : Path} {after : FileSystem} (follow : Bool)
    (hremove : files.removeDirectory path = .ok after) : after.find? follow path = none := by
  obtain ⟨parent, name, entry, hnames, -, -, rfl⟩ := removeDirectory_eq_ok hremove
  exact hnames.find?_drop follow

/-- A tree that was removed, or was not found in the first place, is not found any more. -/
theorem find?_of_removeTree {path : Path}
    (hremove : (files.removeTree path).1 = .ok () ∨
      (files.removeTree path).1 = .error (.os .noEntry)) :
    (files.removeTree path).2.find? true path = none := by
  have hcases := files.removeTree_cases path
  generalize files.removeTree path = removed at hcases hremove ⊢
  cases hcases with
  | nowhere hnone =>
      cases hfind : files.find? true path with
      | none => rfl
      | some found =>
          obtain ⟨spot, named, hsome⟩ := exists_find?_false hfind
          rw [hnone] at hsome
          cases hsome
  | noDirectory => rcases hremove with hnever | hnever <;> cases hnever
  | link => exact find?_of_unlink true hremove
  | notEmptied hfind heach =>
      obtain rfl : _ = IoError.os .noEntry := by simpa using hremove
      exact absurd (congrArg Prod.fst heach) (removeEach_ne_noEntry _ _)
  | kept hfind heach hdirectory hfound => exact absurd (by simpa using hremove) hfound
  | lost hfind heach hdirectory => exact find?_eq_none_of_removeDirectory true hdirectory
  | complete hfind heach hdirectory => exact find?_of_removeDirectory true hdirectory

end Decommission.FileSystem
