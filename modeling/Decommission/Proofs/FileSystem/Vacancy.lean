import Decommission.Proofs.FileSystem.Objects
import Decommission.Proofs.Log.Line

/-!
# Vacancies

Where a path leads to nothing but could, an entry can be put.  The path then leads to that entry,
and all that was found before is still found.  So a file that was opened is found under its path.
-/

namespace Decommission.FileSystem

variable {files : FileSystem} {parent : Place} {name : Name} {entry : Entry}

/-- Nothing is lost by an entry that is put where nothing was. -/
theorem isPart_put (hnone : files.entry? (parent ++ [name]) = none) (entry : Entry) :
    files.IsPart (files.put (parent ++ [name]) entry) := by
  refine ⟨rfl, fun place found hfound => ?_⟩
  have hne : place ≠ parent ++ [name] := by
    rintro rfl
    rw [hnone] at hfound
    cases hfound
  rw [entry?_put_of_ne _ hne]
  exact hfound

/-- A leg that ended in front of the vacancy ends at the entry. -/
theorem advance_put {follow : Bool} {place : Place} {steps : List Name}
    (hleg : files.advance follow place steps = .ok (.arrived (.vacant parent name)))
    (hlink : entry.isLink = false) :
    advance (files.put (parent ++ [name]) entry) follow place steps =
      .ok (.arrived (.present (parent ++ [name]) entry)) := by
  have hpart := isPart_put (holds_of_advance hleg).2 entry
  fun_induction advance files follow place steps with
  | case3 place rest guard hdirectory ih =>
      rw [advance_dot (hpart.entry _ _ hdirectory)]
      exact ih hleg
  | case4 place rest guard hdirectory _ ih =>
      rw [advance_dotDot (hpart.entry _ _ hdirectory)]
      exact ih hleg
  | case6 place found rest guard hdirectory hdot hdotDot hshort hnone hlast =>
      obtain rfl : rest = [] := List.isEmpty_iff.mp hlast
      cases hleg
      have hentry : entry? (files.put (parent ++ [name]) entry) (parent ++ [name]) = some entry :=
        entry?_put_self files (by simp) entry
      rw [advance_entry (hpart.entry _ _ hdirectory) ⟨hdot, hdotDot, hshort⟩ hentry hlink]
      exact advance_nil hentry
  | case10 place found rest guard hdirectory hdot hdotDot hshort other hother hnext ih =>
      have hstays : other.isLink = false := by
        cases other with
        | link object target => exact (hother object target rfl).elim
        | directory _ | file _ | socket _ => rfl
      rw [advance_entry (hpart.entry _ _ hdirectory) ⟨hdot, hdotDot, hshort⟩
        (hpart.entry _ _ hnext) hstays]
      exact ih hleg
  | case1 | case2 | case5 | case7 | case8 | case9 | case11 => cases hleg

theorem walk_put {follow : Bool} {links : Nat} {place : Place} {steps : List Name}
    (hwalk : files.walk follow links place steps = .ok (.vacant parent name))
    (hlink : entry.isLink = false) :
    walk (files.put (parent ++ [name]) entry) follow links place steps =
      .ok (.present (parent ++ [name]) entry) := by
  have hpart := isPart_put (holds_of_walk hwalk).2 entry
  fun_induction walk files follow links place steps with
  | case2 links place steps spot hleg =>
      cases hwalk
      exact walk_of_arrived (advance_put hleg hlink)
  | case4 place steps target rest before hleg links ih =>
      rw [walk_of_link (hpart.advance (by simp) hleg)]
      exact ih hwalk
  | case1 | case3 => cases hwalk

/-- A path that led to the vacancy leads to the entry. -/
theorem find?_put {follow : Bool} {path : Path}
    (hresolve : files.resolve follow path = .ok (.vacant parent name))
    (hlink : entry.isLink = false) :
    find? (files.put (parent ++ [name]) entry) follow path =
      some (parent ++ [name], entry) := by
  unfold resolve at hresolve
  cases hrefused : refused? path with
  | some error =>
      rw [hrefused] at hresolve
      cases hresolve
  | none =>
      rw [hrefused] at hresolve
      cases hwalk : files.walk follow linkLimit (startOf files.here path) path.steps with
      | error code =>
          rw [hwalk] at hresolve
          cases hresolve
      | ok spot =>
          rw [hwalk] at hresolve
          cases hresolve
          exact find?_eq_some_iff.mpr ⟨hrefused, walk_put hwalk hlink⟩

/-- A file that was opened is found under its path. -/
theorem find?_openAppend {path : Path} {object : ObjectId} {opened : FileSystem}
    (hopen : files.openAppend path = .ok (object, opened)) :
    ∃ place, opened.find? true path = some (place, .file object) := by
  rcases openAppend_eq_ok hopen with ⟨hfound, -, rfl⟩ | ⟨parent, name, hresolve, -, rfl⟩
  · exact hfound
  · have hadded : (files.addObject {}).2.resolve true path = .ok (.vacant parent name) := by
      rw [← hresolve]
      exact files.resolve_withObjects _ true path
    exact ⟨parent ++ [name], find?_put hadded rfl⟩

end Decommission.FileSystem
