import Decommission.Proofs.FileSystem.Walk

/-!
# Parts of a file system

A part of a file system has some of its entries, each at its place, and the same current directory.
What a walk reaches in a part it reaches in the whole as well: taking entries away can end a walk,
but it never leads it elsewhere.
-/

namespace Decommission.FileSystem

/-- Every entry of the part is an entry of the whole. -/
structure IsPart (part whole : FileSystem) : Prop where
  here : part.here = whole.here
  entry : ∀ place entry, part.entry? place = some entry → whole.entry? place = some entry

namespace IsPart

theorem refl (files : FileSystem) : files.IsPart files :=
  ⟨rfl, fun _ _ hentry => hentry⟩

theorem trans {part middle whole : FileSystem} (hpart : part.IsPart middle)
    (hmiddle : middle.IsPart whole) : part.IsPart whole :=
  ⟨hpart.here.trans hmiddle.here,
    fun place entry hentry => hmiddle.entry place entry (hpart.entry place entry hentry)⟩

theorem drop (files : FileSystem) {place : Place} (hplace : place ≠ []) :
    (files.drop place).IsPart files := by
  refine ⟨rfl, fun other entry hentry => ?_⟩
  by_cases hother : other = place
  · rw [hother, entry?_drop_self files hplace] at hentry
    cases hentry
  · rwa [entry?_drop_of_ne files hother] at hentry

variable {part whole : FileSystem}

theorem entry?_eq_none (hpart : part.IsPart whole) {place : Place}
    (hnone : whole.entry? place = none) : part.entry? place = none := by
  cases hentry : part.entry? place with
  | none => rfl
  | some entry =>
      rw [hpart.entry place entry hentry] at hnone
      cases hnone

/-- A leg that ends at an entry or at a link ends there in the whole too. -/
theorem advance (hpart : part.IsPart whole) {follow : Bool} {place : Place} {steps : List Name}
    {leg : Leg} (hvacant : ∀ parent name, leg ≠ .arrived (.vacant parent name))
    (hleg : part.advance follow place steps = .ok leg) :
    whole.advance follow place steps = .ok leg := by
  fun_induction FileSystem.advance part follow place steps with
  | case1 place entry hentry => rwa [advance_nil (hpart.entry _ _ hentry)]
  | case2 => cases hleg
  | case3 place rest guard hdirectory ih =>
      rw [advance_dot (hpart.entry _ _ hdirectory)]
      exact ih hleg
  | case4 place rest guard hdirectory _ ih =>
      rw [advance_dotDot (hpart.entry _ _ hdirectory)]
      exact ih hleg
  | case5 => cases hleg
  | case6 place name rest guard hdirectory =>
      -- The name is missing in the part; the whole may well have it.
      exact absurd (Except.ok.inj hleg).symm (hvacant place name)
  | case7 => cases hleg
  | case8 place name rest guard hdirectory hdot hdotDot hshort object target hlink hlast =>
      obtain ⟨rfl, rfl⟩ : rest = [] ∧ follow = false := by simpa using hlast
      rw [advance_last_link (hpart.entry _ _ hdirectory) ⟨hdot, hdotDot, hshort⟩
        (hpart.entry _ _ hlink)]
      exact hleg
  | case9 place name rest guard hdirectory hdot hdotDot hshort object target hlink hgoes =>
      have hfollow : rest ≠ [] ∨ follow = true := by
        by_cases hrest : rest = []
        · simp_all
        · exact Or.inl hrest
      rw [advance_link (hpart.entry _ _ hdirectory) ⟨hdot, hdotDot, hshort⟩
        (hpart.entry _ _ hlink) hfollow]
      exact hleg
  | case10 place name rest guard hdirectory hdot hdotDot hshort entry hentry hnext ih =>
      have hlink : entry.isLink = false := by
        cases entry with
        | link object target => exact (hentry object target rfl).elim
        | directory _ | file _ | socket _ => rfl
      rw [advance_entry (hpart.entry _ _ hdirectory) ⟨hdot, hdotDot, hshort⟩
        (hpart.entry _ _ hnext) hlink]
      exact ih hleg
  | case11 => cases hleg

/-- What a walk reaches in a part it reaches in the whole. -/
theorem walk (hpart : part.IsPart whole) {follow : Bool} {links : Nat} {place spot : Place}
    {steps : List Name} {entry : Entry}
    (hwalk : part.walk follow links place steps = .ok (.present spot entry)) :
    whole.walk follow links place steps = .ok (.present spot entry) := by
  induction links generalizing place steps with
  | zero =>
      cases hleg : part.advance follow place steps with
      | error code =>
          rw [walk_of_error hleg] at hwalk
          cases hwalk
      | ok leg =>
          cases leg with
          | link parent target rest =>
              rw [walk_of_last_link hleg] at hwalk
              cases hwalk
          | arrived found =>
              rw [walk_of_arrived hleg] at hwalk
              cases hwalk
              exact walk_of_arrived (hpart.advance (by simp) hleg)
  | succ links ih =>
      cases hleg : part.advance follow place steps with
      | error code =>
          rw [walk_of_error hleg] at hwalk
          cases hwalk
      | ok leg =>
          cases leg with
          | link parent target rest =>
              rw [walk_of_link hleg] at hwalk
              rw [walk_of_link (hpart.advance (by simp) hleg)]
              exact ih hwalk
          | arrived found =>
              rw [walk_of_arrived hleg] at hwalk
              cases hwalk
              exact walk_of_arrived (hpart.advance (by simp) hleg)

end IsPart

end Decommission.FileSystem
