import Decommission.Proofs.FileSystem.Components
import Decommission.Proofs.FileSystem.Tree

/-!
# Links that are followed

A walk that follows the last link as well never ends at a link.  So the entry that a link leads to is
another one than the link itself.
-/

namespace Decommission

namespace FileSystem

variable {files : FileSystem} {place parent : Place} {steps rest : List Name} {target : Path}

/-- A link in the way is found in a directory. -/
theorem directory_of_advance {follow : Bool}
    (hleg : files.advance follow place steps = .ok (.link parent target rest)) :
    ∃ guard, files.entry? parent = some (.directory guard) := by
  fun_induction advance files follow place steps with
  | case3 place rest guard hdirectory ih => exact ih hleg
  | case4 place rest guard hdirectory _ ih => exact ih hleg
  | case9 place name rest guard hdirectory =>
      cases hleg
      exact ⟨guard, hdirectory⟩
  | case10 place name rest guard _ _ _ _ entry _ _ ih => exact ih hleg
  | case1 | case2 | case5 | case6 | case7 | case8 | case11 => cases hleg

namespace IsTree

/-- Whatever is above a directory is a directory. -/
theorem directory_dropLast (htree : files.IsTree) {guard : Option Guard}
    (hdirectory : files.entry? place = some (.directory guard)) :
    ∃ above, files.entry? place.dropLast = some (.directory above) := by
  cases place using List.reverseRecOn with
  | nil => exact ⟨_, rfl⟩
  | append_singleton front name =>
      rw [List.dropLast_concat]
      exact htree front name _ hdirectory

theorem isLink_of_advance (htree : files.IsTree) {spot : Place} {entry : Entry}
    (hstart : steps = [] → ∀ object target, files.entry? place ≠ some (.link object target))
    (hleg : files.advance true place steps = .ok (.arrived (.present spot entry))) :
    entry.isLink = false := by
  fun_induction advance files true place steps with
  | case1 place found hfound =>
      cases hleg
      cases entry with
      | link object target => exact absurd hfound (hstart rfl object target)
      | directory _ | file _ | socket _ => rfl
  | case3 place rest guard hdirectory ih =>
      refine ih (fun _ object target hlink => ?_) hleg
      rw [hdirectory] at hlink
      cases hlink
  | case4 place rest guard hdirectory _ ih =>
      obtain ⟨above, habove⟩ := htree.directory_dropLast hdirectory
      refine ih (fun _ object target hlink => ?_) hleg
      rw [habove] at hlink
      cases hlink
  | case8 place name rest guard _ _ _ _ object target hlink hlast => simp at hlast
  | case10 place name rest guard _ _ _ _ found hfound hnext ih =>
      refine ih (fun _ object target hlink => ?_) hleg
      rw [hnext] at hlink
      exact hfound object target (Option.some.inj hlink)
  | case2 | case5 | case6 | case7 | case9 | case11 => cases hleg

theorem isLink_of_walk (htree : files.IsTree) {links : Nat} {spot : Place} {entry : Entry}
    (hstart : steps = [] → ∀ object target, files.entry? place ≠ some (.link object target))
    (hwalk : files.walk true links place steps = .ok (.present spot entry)) :
    entry.isLink = false := by
  fun_induction walk files true links place steps with
  | case2 links place steps found hleg =>
      cases hwalk
      exact htree.isLink_of_advance hstart hleg
  | case4 place steps parent target rest hleg links ih =>
      refine ih (fun _ object link hlink => ?_) hwalk
      -- The next leg starts at the root or in the directory that the link is in.
      unfold startOf at hlink
      split at hlink
      · cases hlink
      · obtain ⟨guard, hparent⟩ := directory_of_advance hleg
        rw [hparent] at hlink
        cases hlink
  | case1 | case3 => cases hwalk

/-- A path whose last link is followed does not lead to a link. -/
theorem isLink_of_find? (htree : files.IsTree) {path : Path} {spot : Place} {entry : Entry}
    (hfind : files.find? true path = some (spot, entry)) : entry.isLink = false := by
  obtain ⟨hrefused, hwalk⟩ := find?_eq_some_iff.mp hfind
  have hbytes : path.bytes ≠ [] := by
    intro hempty
    simp [refused?, Path.isEmpty, Path.hasNul, hempty] at hrefused
  exact htree.isLink_of_walk (fun hsteps => absurd hsteps (Path.steps_ne_nil hbytes)) hwalk

end IsTree

theorem entry?_of_find? {follow : Bool} {path : Path} {spot : Place} {entry : Entry}
    (hfind : files.find? follow path = some (spot, entry)) :
    files.entry? spot = some entry := by
  obtain ⟨-, hwalk⟩ := find?_eq_some_iff.mp hfind
  exact holds_of_walk hwalk

end FileSystem

end Decommission
