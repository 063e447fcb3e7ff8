import Decommission.Proofs.FileSystem.Age
import Decommission.Proofs.FileSystem.Followed
import Decommission.Run.Cleanup

/-!
# Removing one target

What the removal of a target may take away, and that a target is not there any more once its removal
has succeeded.
-/

namespace Decommission.Target

variable {files : FileSystem}

theorem isPresent_of_isPart {part whole : FileSystem} (hpart : part.IsPart whole)
    {target : Target} (hpresent : target.isPresent part = true) :
    target.isPresent whole = true := by
  have hfind : ∀ (follow : Bool) (test : Place × Entry → Bool),
      (part.find? follow target.path).any test = true →
        (whole.find? follow target.path).any test = true := by
    intro follow test hany
    cases hpath : part.find? follow target.path with
    | none =>
        rw [hpath] at hany
        cases hany
    | some found =>
        rw [hpath] at hany
        rwa [hpart.find? hpath]
  unfold isPresent at hpresent ⊢
  split at hpresent
  all_goals exact hfind _ _ hpresent

/-- A target that is absent is absent from every part. -/
theorem isAbsent_of_isPart {part whole : FileSystem} (hpart : part.IsPart whole)
    {target : Target} (habsent : target.isPresent whole = false) :
    target.isPresent part = false := by
  cases hpresent : target.isPresent part with
  | false => rfl
  | true =>
      rw [isPresent_of_isPart hpart hpresent] at habsent
      cases habsent

theorem isPresent_congr (target : Target) {first second : FileSystem}
    (hfirst : first.IsPart second) (hsecond : second.IsPart first) :
    target.isPresent first = target.isPresent second := by
  cases hpresent : target.isPresent first with
  | true => exact (isPresent_of_isPart hfirst hpresent).symm
  | false => exact (isAbsent_of_isPart hsecond hpresent).symm

/-- The entries that the removal of a target may take: the one its path names, and for a directory
tree what lies below that. -/
def MayTake (target : Target) (files : FileSystem) (place : Place) : Prop :=
  (∃ entry, files.find? false target.path = some (place, entry)) ∨
    target.kind = .directoryTree ∧ ∃ top guard,
      files.find? false target.path = some (top, .directory guard) ∧ place ∈ files.below top

theorem remove_loses (target : Target) (files : FileSystem) :
    files.Loses (target.remove files).2 (target.MayTake files) := by
  show files.Loses (target.attempt files).2 _
  unfold attempt
  split
  · rename_i hkind
    refine (files.removeTree_loses target.path).mono fun place hplace => ?_
    exact hplace.imp_right fun hbelow => ⟨hkind, hbelow⟩
  all_goals exact (files.unlink_loses target.path).mono fun _ => Or.inl

theorem forgive_eq_ok {answer : Except IoError Unit} (hforgive : forgive answer = .ok ()) :
    answer = .ok () ∨ answer = .error (.os .noEntry) := by
  cases answer with
  | ok value => exact Or.inl rfl
  | error error =>
      by_cases herror : error = .os .noEntry
      · exact Or.inr (by rw [herror])
      · simp [forgive, herror] at hforgive

/-- A target that was removed is not there any more. -/
theorem isPresent_remove {target : Target} (hremove : (target.remove files).1 = .ok ()) :
    target.isPresent (target.remove files).2 = false := by
  have hattempt := forgive_eq_ok hremove
  show target.isPresent (target.attempt files).2 = false
  unfold attempt at hattempt ⊢
  cases hkind : target.kind with
  | directoryTree =>
      rw [hkind] at hattempt
      simp [isPresent, hkind, FileSystem.find?_of_removeTree hattempt]
  | symlink =>
      rw [hkind] at hattempt
      simp [isPresent, hkind, FileSystem.find?_of_unlink false hattempt]
  | registrationFile =>
      rw [hkind] at hattempt
      simp [isPresent, hkind, FileSystem.find?_of_unlink true hattempt]

/-- A removal that succeeds leaves a tree. -/
theorem isTree_remove {target : Target} (htree : files.IsTree)
    (hremove : (target.remove files).1 = .ok ()) : (target.remove files).2.IsTree := by
  have hattempt := forgive_eq_ok hremove
  show (target.attempt files).2.IsTree
  unfold attempt at hattempt ⊢
  cases hkind : target.kind with
  | directoryTree =>
      rw [hkind] at hattempt
      exact htree.removeTree hattempt
  | symlink | registrationFile => exact htree.unlink target.path

/-- A removal that fails halfway leaves a tree as well, if the tree had grown. -/
theorem isGrown_remove (hgrown : files.IsGrown) (target : Target) :
    (target.remove files).2.IsGrown := by
  show (target.attempt files).2.IsGrown
  unfold attempt
  cases target.kind with
  | directoryTree => exact hgrown.removeTree target.path
  | symlink | registrationFile => exact hgrown.unlink target.path

/-- Where the path of a target is a link, that link is all that can go. -/
theorem remove_of_link {target : Target} {place : Place} {object : ObjectId} {link : Path}
    (hlink : files.find? false target.path = some (place, .link object link)) :
    (target.remove files).2 = files ∨ (target.remove files).2 = files.drop place := by
  have hunlink : (files.unlink target.path).2 = files ∨
      (files.unlink target.path).2 = files.drop place := by
    unfold FileSystem.unlink
    cases hremove : files.removeFile target.path with
    | error error => exact Or.inl rfl
    | ok after =>
        obtain ⟨parent, name, entry, hnames, -, hslash, rfl⟩ :=
          FileSystem.removeFile_eq_ok hremove
        have hfound := hnames.find?_false (by simp [hslash])
        rw [hlink] at hfound
        cases hfound
        exact Or.inr rfl
  show (target.attempt files).2 = files ∨ (target.attempt files).2 = files.drop place
  unfold attempt
  cases target.kind with
  | directoryTree =>
      show (files.removeTree target.path).2 = files ∨
        (files.removeTree target.path).2 = files.drop place
      rw [FileSystem.removeTree_of_link hlink]
      exact hunlink
  | symlink | registrationFile => exact hunlink

/-- What that link leads to stays. -/
theorem entry?_remove_of_link {target : Target} {place other : Place} {object : ObjectId}
    {link : Path} {found : Entry} (htree : files.IsTree)
    (hlink : files.find? false target.path = some (place, .link object link))
    (hfound : files.find? true target.path = some (other, found)) :
    FileSystem.entry? (target.remove files).2 other = some found := by
  have hentry := FileSystem.entry?_of_find? hfound
  have hne : other ≠ place := by
    rintro rfl
    rw [FileSystem.entry?_of_find? hlink] at hentry
    cases hentry
    cases htree.isLink_of_find? hfound
  rcases remove_of_link hlink with hsame | hdrop
  · rw [hsame]
    exact hentry
  · rw [hdrop, FileSystem.entry?_drop_of_ne _ hne]
    exact hentry

/-- In a tree, these are the entries that the removal of a target may take: the one its path names
without its last link being followed, and for the tree of a directory what is reached from there
through directories. -/
inductive Covers (target : Target) (files : FileSystem) (place : Place) : Prop where
  | named {entry} (hfind : files.find? false target.path = some (place, entry)) :
      Covers target files place
  | inside {top guard} (hkind : target.kind = .directoryTree)
      (hfind : files.find? false target.path = some (top, .directory guard))
      (hplace : files.Descends top place) : Covers target files place

theorem covers_of_mayTake {target : Target} {place : Place} (htree : files.IsTree)
    (htake : target.MayTake files place) : target.Covers files place := by
  rcases htake with ⟨entry, hfind⟩ | ⟨hkind, top, guard, hfind, hbelow⟩
  · exact .named hfind
  · exact .inside hkind hfind (htree.descends hbelow)

end Decommission.Target
