import Decommission.Proofs.FileSystem.Tree

/-!
# Directories before their entries

The entries of a file system are listed by age, and a directory is older than what lies below it.  So
a directory is emptied from the bottom up: an entry goes when nothing is left below it, and what a
removal leaves is a tree even if something stopped it halfway.
-/

namespace Decommission

namespace Place

theorem isBelow_self (place : Place) : place.isBelow place = false := by
  simp [isBelow]

/-- Whether one place is below another does not depend on what is in front of both. -/
theorem isBelow_append (front place above : Place) :
    isBelow (front ++ place) (front ++ above) = isBelow place above := by
  simp [isBelow, List.take_length_add_append]

end Place

namespace FileSystem

variable {files : FileSystem}

theorem Descends.exists_directory {top place : Place} (hplace : files.Descends top place) :
    ∃ guard, files.entry? top = some (.directory guard) := by
  induction hplace with
  | inside htop => exact ⟨_, htop⟩
  | deeper _ _ ih => exact ih

/-- Nothing is below a place without a directory. -/
theorem IsTree.below_eq_nil (htree : files.IsTree) {place : Place}
    (hplace : ∀ guard, files.entry? place ≠ some (.directory guard)) : files.below place = [] := by
  rw [List.eq_nil_iff_forall_not_mem]
  intro other hother
  obtain ⟨guard, hdirectory⟩ := (htree.descends hother).exists_directory
  exact hplace guard hdirectory

/-- A tree in which every directory is older than what lies below it. -/
structure IsGrown (files : FileSystem) : Prop where
  isTree : files.IsTree
  older : files.entries.Pairwise fun entry younger => entry.1.isBelow younger.1 = false

namespace IsGrown

theorem empty : FileSystem.empty.IsGrown where
  isTree := .of_entries (by simp [FileSystem.empty])
  older := .nil

/-- The oldest place below a directory comes last. -/
theorem below (hgrown : files.IsGrown) (top : Place) :
    (files.below top).Pairwise fun place later => later.isBelow place = false := by
  rw [FileSystem.below, List.pairwise_reverse]
  exact (List.pairwise_map.mpr hgrown.older).filter _

/-! ## Entries that are made -/

/-- Only entries matter. -/
theorem withObjects (hgrown : files.IsGrown) (objects : List FileObject) :
    IsGrown { files with objects } :=
  ⟨hgrown.isTree, hgrown.older⟩

theorem put (hgrown : files.IsGrown) {parent : Place} {name : Name} {guard : Option Guard}
    (hparent : files.entry? parent = some (.directory guard))
    (hnone : files.entry? (parent ++ [name]) = none) (entry : Entry) :
    (files.put (parent ++ [name]) entry).IsGrown := by
  refine ⟨hgrown.isTree.put hparent hnone entry, ?_⟩
  -- What was below the new entry would have been below nothing.
  have hbelow : files.below (parent ++ [name]) = [] :=
    hgrown.isTree.below_eq_nil (by simp [hnone])
  refine List.pairwise_append.mpr ⟨hgrown.older.filter _, List.pairwise_singleton _ _, ?_⟩
  rintro older holder younger hyounger
  obtain rfl := List.mem_singleton.mp hyounger
  exact files.isBelow_eq_false hbelow (List.mem_filter.mp holder).1

theorem openAppend (hgrown : files.IsGrown) {path : Path} {object : ObjectId}
    {opened : FileSystem} (hopen : files.openAppend path = .ok (object, opened)) :
    opened.IsGrown := by
  rcases openAppend_eq_ok hopen with ⟨-, -, rfl⟩ | ⟨parent, name, hresolve, -, rfl⟩
  · exact hgrown
  · obtain ⟨⟨guard, hparent⟩, hnone⟩ := holds_of_resolve hresolve
    have hadded : (files.addObject {}).2.IsGrown := hgrown.withObjects _
    exact hadded.put hparent hnone _

/-! ## Entries that are removed -/

theorem drop (hgrown : files.IsGrown) {place : Place} (hplace : place ≠ [])
    (hbelow : files.below place = []) : (files.drop place).IsGrown where
  isTree := hgrown.isTree.drop hplace (files.entry?_of_below_eq_nil hbelow)
  older := hgrown.older.filter _

theorem removeFile (hgrown : files.IsGrown) {path : Path} {after : FileSystem}
    (hremove : files.removeFile path = .ok after) : after.IsGrown := by
  refine ⟨hgrown.isTree.removeFile hremove, ?_⟩
  obtain ⟨parent, name, entry, -, -, -, rfl⟩ := removeFile_eq_ok hremove
  exact hgrown.older.filter _

theorem unlink (hgrown : files.IsGrown) (path : Path) : (files.unlink path).2.IsGrown := by
  unfold FileSystem.unlink
  cases hremove : files.removeFile path with
  | error error => exact hgrown
  | ok after => exact hgrown.removeFile hremove

theorem removeDirectory (hgrown : files.IsGrown) {path : Path} {after : FileSystem}
    (hremove : files.removeDirectory path = .ok after) : after.IsGrown := by
  obtain ⟨parent, name, entry, -, -, hbelow, rfl⟩ := removeDirectory_eq_ok hremove
  exact hgrown.drop (by simp) hbelow

/-- Places that are listed from the bottom up, each behind all that is below it, can go one after the
other, and it does not matter which one is the last. -/
theorem removeEach {places : List Place} (hgrown : files.IsGrown)
    (hne : ∀ place ∈ places, place ≠ [])
    (horder : places.Pairwise fun place later => later.isBelow place = false)
    (hall : ∀ place ∈ places, ∀ other ∈ files.below place, other ∈ places) :
    (FileSystem.removeEach places files).2.IsGrown := by
  induction places generalizing files with
  | nil => exact hgrown
  | cons place rest ih =>
      obtain ⟨hlater, hrest⟩ := List.pairwise_cons.mp horder
      unfold FileSystem.removeEach
      split
      · exact hgrown
      · have hbelow : files.below place = [] := by
          rw [List.eq_nil_iff_forall_not_mem]
          intro other hother
          have hisBelow := (files.mem_below.mp hother).2
          rcases List.mem_cons.mp (hall place (by simp) other hother) with rfl | hmem
          · rw [Place.isBelow_self] at hisBelow
            cases hisBelow
          · rw [hlater other hmem] at hisBelow
            cases hisBelow
        have hdropped := hgrown.drop (hne place (by simp)) hbelow
        refine ih hdropped (fun other hother => hne other (by simp [hother])) hrest ?_
        intro above habove other hother
        obtain ⟨⟨entry, hentry⟩, hisBelow⟩ := (files.drop place).mem_below.mp hother
        obtain ⟨hmem, hkept⟩ := List.mem_filter.mp hentry
        have hbefore := files.mem_below.mpr ⟨⟨entry, hmem⟩, hisBelow⟩
        replace hkept : other ≠ place := by simpa using hkept
        exact (List.mem_cons.mp (hall above (by simp [habove]) other hbefore)).resolve_left hkept

theorem removeTree (hgrown : files.IsGrown) (path : Path) : (files.removeTree path).2.IsGrown := by
  have hemptied : ∀ {place answer left},
      FileSystem.removeEach (files.below place) files = (answer, left) → left.IsGrown := by
    intro place answer left heach
    have hleft := hgrown.removeEach files.ne_nil_of_mem_below (hgrown.below place) <| by
      intro above habove other hother
      obtain ⟨hlisted, hisBelow⟩ := files.mem_below.mp hother
      have habove := (files.mem_below.mp habove).2
      exact files.mem_below.mpr ⟨hlisted, Place.isBelow_trans hisBelow habove⟩
    rwa [heach] at hleft
  have hcases := files.removeTree_cases path
  generalize files.removeTree path = removed at hcases ⊢
  cases hcases with
  | nowhere | noDirectory => exact hgrown
  | link => exact hgrown.unlink path
  | notEmptied hfind heach | kept hfind heach | lost hfind heach => exact hemptied heach
  | complete hfind heach hdirectory => exact (hemptied heach).removeDirectory hdirectory

end IsGrown

end FileSystem

end Decommission
