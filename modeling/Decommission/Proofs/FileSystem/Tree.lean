import Decommission.Proofs.FileSystem.Loss
import Decommission.Proofs.Log.Line
import Mathlib.Data.List.Induction

/-!
# Trees

In a tree every entry lies in a directory.  Lines of the log and removals that succeed keep a file
system a tree, and in a tree what lies below a place is reached from there through directories only.
-/

namespace Decommission

namespace FileSystem

/-- Every entry lies in a directory. -/
def IsTree (files : FileSystem) : Prop :=
  ∀ place name entry, files.entry? (place ++ [name]) = some entry →
    ∃ guard, files.entry? place = some (.directory guard)

/-- The place is reached from `top` by going into directories, and not through links. -/
inductive Descends (files : FileSystem) (top : Place) : Place → Prop where
  | inside {name guard} (htop : files.entry? top = some (.directory guard)) :
      Descends files top (top ++ [name])
  | deeper {place name guard} (hplace : Descends files top place)
      (hdirectory : files.entry? place = some (.directory guard)) :
      Descends files top (place ++ [name])

namespace IsTree

variable {files : FileSystem} {place : Place}

/-- It is enough to look at the entries that are listed. -/
theorem of_entries (hentries : ∀ item ∈ files.entries,
    (files.entry? (List.dropLast item.1)).any Entry.isDirectory = true) : files.IsTree := by
  intro place name entry hentry
  have hmem := files.mem_entries_of_entry? (by simp) hentry
  have habove := hentries _ hmem
  rw [List.dropLast_concat] at habove
  cases hplace : files.entry? place with
  | none =>
      rw [hplace] at habove
      cases habove
  | some found =>
      rw [hplace] at habove
      cases found with
      | directory guard => exact ⟨guard, rfl⟩
      | file _ | link _ _ | socket _ => cases habove

/-- What is not a directory has nothing in it. -/
theorem entry?_eq_none (htree : files.IsTree)
    (hplace : ∀ guard, files.entry? place ≠ some (.directory guard)) (name : Name) :
    files.entry? (place ++ [name]) = none := by
  cases hentry : files.entry? (place ++ [name]) with
  | none => rfl
  | some entry =>
      obtain ⟨guard, hdirectory⟩ := htree place name entry hentry
      exact absurd hdirectory (hplace guard)

theorem descends (htree : files.IsTree) {top : Place} (hbelow : place ∈ files.below top) :
    files.Descends top place := by
  obtain ⟨⟨entry, hmem⟩, hisBelow⟩ := files.mem_below.mp hbelow
  obtain ⟨name, rest, rfl⟩ := Place.isBelow_iff.mp hisBelow
  have hentry := files.entry?_ne_none_of_mem hmem
  clear hbelow hisBelow hmem
  induction rest using List.reverseRecOn with
  | nil =>
      obtain ⟨found, hfound⟩ := Option.ne_none_iff_exists'.mp hentry
      obtain ⟨guard, htop⟩ := htree top name found hfound
      exact .inside htop
  | append_singleton rest last ih =>
      obtain ⟨found, hfound⟩ := Option.ne_none_iff_exists'.mp hentry
      rw [← List.cons_append, ← List.append_assoc] at hfound ⊢
      obtain ⟨guard, hdirectory⟩ := htree _ last found hfound
      refine .deeper (ih ?_) hdirectory
      rw [hdirectory]
      simp

/-! ## Lines of the log -/

theorem append (htree : files.IsTree) (object : ObjectId) (bytes : Bytes) :
    (files.append object bytes).IsTree :=
  htree

theorem put (htree : files.IsTree) {parent : Place} {name : Name} {guard : Option Guard}
    (hparent : files.entry? parent = some (.directory guard))
    (hnone : files.entry? (parent ++ [name]) = none) (entry : Entry) :
    (files.put (parent ++ [name]) entry).IsTree := by
  -- The new entry lies in its parent, and it takes the place of no directory.
  have hkept : ∀ place guard, files.entry? place = some (.directory guard) →
      entry? (files.put (parent ++ [name]) entry) place = some (.directory guard) := by
    intro place guard hdirectory
    have hne : place ≠ parent ++ [name] := by
      rintro rfl
      rw [hnone] at hdirectory
      cases hdirectory
    rw [entry?_put_of_ne _ hne]
    exact hdirectory
  intro place other found hfound
  by_cases hplace : place ++ [other] = parent ++ [name]
  · obtain ⟨rfl, -⟩ := List.append_inj' hplace rfl
    exact ⟨guard, hkept _ guard hparent⟩
  · rw [entry?_put_of_ne _ hplace] at hfound
    obtain ⟨guard, hdirectory⟩ := htree place other found hfound
    exact ⟨guard, hkept place guard hdirectory⟩

theorem openAppend (htree : files.IsTree) {path : Path} {object : ObjectId} {opened : FileSystem}
    (hopen : files.openAppend path = .ok (object, opened)) : opened.IsTree := by
  rcases openAppend_eq_ok hopen with ⟨-, -, rfl⟩ | ⟨parent, name, hresolve, -, rfl⟩
  · exact htree
  · obtain ⟨⟨guard, hparent⟩, hnone⟩ := holds_of_resolve hresolve
    have hadded : (files.addObject {}).2.IsTree := htree
    exact hadded.put hparent hnone _

/-! ## Removals -/

/-- A place with nothing in it can go. -/
theorem drop (htree : files.IsTree) (hplace : place ≠ [])
    (hleaf : ∀ name, files.entry? (place ++ [name]) = none) : (files.drop place).IsTree := by
  intro other name entry hentry
  have hpart := IsPart.drop files hplace
  have hbefore := hpart.entry _ _ hentry
  obtain ⟨guard, hdirectory⟩ := htree other name entry hbefore
  have hne : other ≠ place := by
    rintro rfl
    rw [hleaf name] at hbefore
    cases hbefore
  rw [entry?_drop_of_ne _ hne]
  exact ⟨guard, hdirectory⟩

theorem removeFile (htree : files.IsTree) {path : Path} {after : FileSystem}
    (hremove : files.removeFile path = .ok after) : after.IsTree := by
  obtain ⟨parent, name, entry, hnames, hdirectory, -, rfl⟩ := removeFile_eq_ok hremove
  have hplace : ∀ guard, files.entry? (parent ++ [name]) ≠ some (.directory guard) := by
    intro guard hguard
    rw [hnames.present] at hguard
    cases hguard
    cases hdirectory
  exact htree.drop (by simp) (htree.entry?_eq_none hplace)

theorem unlink (htree : files.IsTree) (path : Path) : (files.unlink path).2.IsTree := by
  unfold FileSystem.unlink
  cases hremove : files.removeFile path with
  | error error => exact htree
  | ok after => exact htree.removeFile hremove

theorem removeDirectory (htree : files.IsTree) {path : Path} {after : FileSystem}
    (hremove : files.removeDirectory path = .ok after) : after.IsTree := by
  obtain ⟨parent, name, entry, -, -, hbelow, rfl⟩ := removeDirectory_eq_ok hremove
  exact htree.drop (by simp) (files.entry?_of_below_eq_nil hbelow)

end IsTree

/-- Once all of some entries have been removed, only the others are left. -/
theorem entry?_removeEach {places : List Place} {files : FileSystem}
    (hne : ∀ place ∈ places, place ≠ []) (hremove : (removeEach places files).1 = .ok ())
    (place : Place) :
    entry? (removeEach places files).2 place =
      if place ∈ places then none else files.entry? place := by
  induction places generalizing files with
  | nil => simp [removeEach]
  | cons head rest ih =>
      unfold removeEach at hremove ⊢
      split at hremove
      · cases hremove
      · rw [ih (fun other hother => hne other (by simp [hother])) hremove]
        by_cases hrest : place ∈ rest
        · simp [hrest]
        · by_cases hhead : place = head
          · subst hhead
            simp [hrest, files.entry?_drop_self (hne place (by simp))]
          · simp [hrest, hhead, files.entry?_drop_of_ne hhead]

namespace IsTree

variable {files : FileSystem}

/-- A directory can be emptied. -/
theorem removeEach (htree : files.IsTree) {top : Place}
    (hremove : (removeEach (files.below top) files).1 = .ok ()) :
    (FileSystem.removeEach (files.below top) files).2.IsTree := by
  intro place name entry hentry
  rw [entry?_removeEach files.ne_nil_of_mem_below hremove] at hentry ⊢
  split at hentry
  · cases hentry
  · rename_i hkept
    obtain ⟨guard, hdirectory⟩ := htree place name entry hentry
    have hplace : place ∉ files.below top := by
      intro hbelow
      -- Whatever lies in a place that is below `top` is below `top` itself.
      have hinside : Place.isBelow (place ++ [name]) place = true :=
        Place.isBelow_iff.mpr ⟨name, [], rfl⟩
      have hisBelow := Place.isBelow_trans hinside (files.mem_below.mp hbelow).2
      have hmem := files.mem_entries_of_entry? (by simp) hentry
      exact hkept (files.mem_below.mpr ⟨⟨entry, hmem⟩, hisBelow⟩)
    rw [if_neg hplace]
    exact ⟨guard, hdirectory⟩

theorem removeTree (htree : files.IsTree) {path : Path}
    (hremove : (files.removeTree path).1 = .ok () ∨
      (files.removeTree path).1 = .error (.os .noEntry)) :
    (files.removeTree path).2.IsTree := by
  have hemptied : ∀ {place left},
      FileSystem.removeEach (files.below place) files = (.ok (), left) → left.IsTree := by
    intro place left heach
    have hleft := htree.removeEach (congrArg Prod.fst heach)
    rwa [heach] at hleft
  have hcases := files.removeTree_cases path
  generalize files.removeTree path = removed at hcases hremove ⊢
  cases hcases with
  | nowhere | noDirectory => exact htree
  | link => exact htree.unlink path
  | notEmptied hfind heach =>
      obtain rfl : _ = IoError.os .noEntry := by simpa using hremove
      exact absurd (congrArg Prod.fst heach) (removeEach_ne_noEntry _ _)
  | kept hfind heach | lost hfind heach => exact hemptied heach
  | complete hfind heach hdirectory => exact (hemptied heach).removeDirectory hdirectory

end IsTree

end FileSystem

end Decommission
