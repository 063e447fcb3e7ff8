import Decommission.Proofs.FileSystem.Entries

/-!
# The steps of a walk

One equation for each thing that can happen to a walk at its next name.  With them, what is known
about a walk is extended by one name at a time.
-/

namespace Decommission

namespace Name

/-- A name under which a directory can hold an entry. -/
structure IsPlain (name : Name) : Prop where
  ne_dot : name ≠ dot
  ne_dotDot : name ≠ dotDot
  short : ¬maxLength < name.length

theorem dotDot_ne_dot : dotDot ≠ dot := by decide

end Name

namespace FileSystem

variable {files : FileSystem} {follow : Bool} {place : Place} {name : Name} {rest : List Name}

section Steps

attribute [local simp] advance

theorem advance_nil {entry : Entry} (hentry : files.entry? place = some entry) :
    files.advance follow place [] = .ok (.arrived (.present place entry)) := by
  simp [hentry]

theorem advance_nowhere (hnone : files.entry? place = none) :
    files.advance follow place [] = .error .noEntry := by
  simp [hnone]

theorem advance_outside (houtside : ∀ guard, files.entry? place ≠ some (.directory guard)) :
    files.advance follow place (name :: rest) = .error .notDirectory := by
  rw [advance]
  split
  · exact absurd ‹_› (houtside _)
  · rfl

variable {guard : Option Guard}

theorem advance_dot (hdirectory : files.entry? place = some (.directory guard)) :
    files.advance follow place (Name.dot :: rest) = files.advance follow place rest := by
  simp [hdirectory]

theorem advance_dotDot (hdirectory : files.entry? place = some (.directory guard)) :
    files.advance follow place (Name.dotDot :: rest) =
      files.advance follow place.dropLast rest := by
  simp [hdirectory, Name.dotDot_ne_dot]

theorem advance_long (hdirectory : files.entry? place = some (.directory guard))
    (hdot : name ≠ Name.dot) (hdotDot : name ≠ Name.dotDot)
    (hlong : Name.maxLength < name.length) :
    files.advance follow place (name :: rest) = .error .nameTooLong := by
  simp [hdirectory, hdot, hdotDot, hlong]

theorem advance_vacant (hdirectory : files.entry? place = some (.directory guard))
    (hplain : name.IsPlain) (hnone : files.entry? (place ++ [name]) = none) :
    files.advance follow place [name] = .ok (.arrived (.vacant place name)) := by
  simp [hdirectory, hplain.ne_dot, hplain.ne_dotDot, hplain.short, hnone]

theorem advance_missing (hdirectory : files.entry? place = some (.directory guard))
    (hplain : name.IsPlain) (hnone : files.entry? (place ++ [name]) = none) (hrest : rest ≠ []) :
    files.advance follow place (name :: rest) = .error .noEntry := by
  simp [hdirectory, hplain.ne_dot, hplain.ne_dotDot, hplain.short, hnone, hrest]

theorem advance_entry {entry : Entry} (hdirectory : files.entry? place = some (.directory guard))
    (hplain : name.IsPlain) (hentry : files.entry? (place ++ [name]) = some entry)
    (hlink : entry.isLink = false) :
    files.advance follow place (name :: rest) = files.advance follow (place ++ [name]) rest := by
  cases entry with
  | link object target => cases hlink
  | directory _ | file _ | socket _ =>
      simp [hdirectory, hplain.ne_dot, hplain.ne_dotDot, hplain.short, hentry]

variable {object : ObjectId} {target : Path}

/-- A link in the way is handed back with the names behind it. -/
theorem advance_link (hdirectory : files.entry? place = some (.directory guard))
    (hplain : name.IsPlain)
    (hlink : files.entry? (place ++ [name]) = some (.link object target))
    (hfollow : rest ≠ [] ∨ follow = true) :
    files.advance follow place (name :: rest) = .ok (.link place target rest) := by
  have hgoes : (rest.isEmpty && !follow) = false := by
    rcases hfollow with hrest | hfollow
    · simp [hrest]
    · simp [hfollow]
  simp [hdirectory, hplain.ne_dot, hplain.ne_dotDot, hplain.short, hlink, hgoes]

/-- A link in the last place is where a walk that does not follow it ends. -/
theorem advance_last_link (hdirectory : files.entry? place = some (.directory guard))
    (hplain : name.IsPlain)
    (hlink : files.entry? (place ++ [name]) = some (.link object target)) :
    files.advance false place [name] =
      .ok (.arrived (.present (place ++ [name]) (.link object target))) := by
  simp [hdirectory, hplain.ne_dot, hplain.ne_dotDot, hplain.short, hlink]

end Steps

/-! ## From leg to leg -/

variable {target : Path} {links : Nat} {steps : List Name}

theorem walk_of_error {code : Errno} (hleg : files.advance follow place steps = .error code) :
    files.walk follow links place steps = .error code := by
  unfold walk
  rw [hleg]

theorem walk_of_arrived {spot : Spot}
    (hleg : files.advance follow place steps = .ok (.arrived spot)) :
    files.walk follow links place steps = .ok spot := by
  unfold walk
  rw [hleg]

theorem walk_of_link {parent : Place}
    (hleg : files.advance follow place steps = .ok (.link parent target rest)) :
    files.walk follow (links + 1) place steps =
      files.walk follow links (startOf parent target) (target.steps ++ rest) := by
  rw [walk, hleg]

theorem walk_of_last_link {parent : Place}
    (hleg : files.advance follow place steps = .ok (.link parent target rest)) :
    files.walk follow 0 place steps = .error .tooManyLinks := by
  rw [walk, hleg]

/-! ## Where a walk ends -/

/-- The spot is as the file system has it. -/
def Spot.Holds (files : FileSystem) : Spot → Prop
  | .present place entry => files.entry? place = some entry
  | .vacant parent name =>
      (∃ guard, files.entry? parent = some (.directory guard)) ∧
        files.entry? (parent ++ [name]) = none

theorem holds_of_advance {spot : Spot}
    (hleg : files.advance follow place steps = .ok (.arrived spot)) : spot.Holds files := by
  fun_induction advance files follow place steps with
  | case1 place entry hentry =>
      cases hleg
      exact hentry
  | case2 => cases hleg
  | case3 place rest guard hdirectory ih => exact ih hleg
  | case4 place rest guard hdirectory _ ih => exact ih hleg
  | case5 => cases hleg
  | case6 place name rest guard hdirectory _ _ _ hnone =>
      cases hleg
      exact ⟨⟨guard, hdirectory⟩, hnone⟩
  | case7 => cases hleg
  | case8 place name rest guard _ _ _ _ object target hlink =>
      cases hleg
      exact hlink
  | case9 => cases hleg
  | case10 place name rest guard _ _ _ _ entry _ _ ih => exact ih hleg
  | case11 => cases hleg

theorem holds_of_walk {spot : Spot} (hwalk : files.walk follow links place steps = .ok spot) :
    spot.Holds files := by
  fun_induction walk files follow links place steps with
  | case1 => cases hwalk
  | case2 links place steps spot hleg =>
      cases hwalk
      exact holds_of_advance hleg
  | case3 => cases hwalk
  | case4 place steps parent target rest hleg links ih => exact ih hwalk

theorem holds_of_resolve {path : Path} {spot : Spot}
    (hresolve : files.resolve follow path = .ok spot) : spot.Holds files := by
  unfold resolve at hresolve
  split at hresolve
  · cases hresolve
  · cases hwalk : files.walk follow linkLimit (startOf files.here path) path.steps with
    | error code =>
        rw [hwalk] at hresolve
        cases hresolve
    | ok found =>
        rw [hwalk] at hresolve
        cases hresolve
        exact holds_of_walk hwalk

end FileSystem

end Decommission
