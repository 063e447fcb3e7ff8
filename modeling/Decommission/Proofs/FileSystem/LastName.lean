import Decommission.Proofs.FileSystem.Part

/-!
# The last name of a path

A walk is cut in two in front of one of its names: it first walks to the directory in which that
name is looked up, and goes on from there.  From this follows what an operation on the last name of
a path has to do with where the path leads.
-/

namespace Decommission.FileSystem

variable {files : FileSystem}

/-- A leg over some names and a dot, and the leg over the same names and more. -/
theorem advance_append (follow : Bool) (place : Place) (front : List Name) (name : Name)
    (rest : List Name) :
    (∃ code, files.advance true place (front ++ [Name.dot]) = .error code ∧
      files.advance follow place (front ++ name :: rest) = .error code) ∨
    (∃ parent guard, files.entry? parent = some (.directory guard) ∧
      files.advance true place (front ++ [Name.dot]) =
        .ok (.arrived (.present parent (.directory guard))) ∧
      files.advance follow place (front ++ name :: rest) =
        files.advance follow parent (name :: rest)) ∨
    (∃ parent target more,
      files.advance true place (front ++ [Name.dot]) =
        .ok (.link parent target (more ++ [Name.dot])) ∧
      files.advance follow place (front ++ name :: rest) =
        .ok (.link parent target (more ++ name :: rest))) := by
  induction front generalizing place with
  | nil =>
      by_cases hplace : ∃ guard, files.entry? place = some (.directory guard)
      · obtain ⟨guard, hdirectory⟩ := hplace
        refine Or.inr (Or.inl ⟨place, guard, hdirectory, ?_, rfl⟩)
        rw [List.nil_append, advance_dot hdirectory, advance_nil hdirectory]
      · have houtside : ∀ guard, files.entry? place ≠ some (.directory guard) :=
          fun guard hguard => hplace ⟨guard, hguard⟩
        exact Or.inl ⟨.notDirectory, advance_outside houtside, advance_outside houtside⟩
  | cons head front ih =>
      simp only [List.cons_append]
      by_cases hplace : ∃ guard, files.entry? place = some (.directory guard)
      · obtain ⟨guard, hdirectory⟩ := hplace
        by_cases hdot : head = Name.dot
        · subst hdot
          rw [advance_dot hdirectory, advance_dot hdirectory]
          exact ih place
        by_cases hdotDot : head = Name.dotDot
        · subst hdotDot
          rw [advance_dotDot hdirectory, advance_dotDot hdirectory]
          exact ih place.dropLast
        by_cases hlong : Name.maxLength < head.length
        · exact Or.inl ⟨.nameTooLong, advance_long hdirectory hdot hdotDot hlong,
            advance_long hdirectory hdot hdotDot hlong⟩
        have hplain : head.IsPlain := ⟨hdot, hdotDot, hlong⟩
        cases hnext : files.entry? (place ++ [head]) with
        | none =>
            exact Or.inl ⟨.noEntry, advance_missing hdirectory hplain hnext (by simp),
              advance_missing hdirectory hplain hnext (by simp)⟩
        | some next =>
            cases next with
            | link object target =>
                exact Or.inr (Or.inr ⟨place, target, front,
                  advance_link hdirectory hplain hnext (by simp),
                  advance_link hdirectory hplain hnext (by simp)⟩)
            | directory _ | file _ | socket _ =>
                rw [advance_entry hdirectory hplain hnext rfl,
                  advance_entry hdirectory hplain hnext rfl]
                exact ih (place ++ [head])
      · have houtside : ∀ guard, files.entry? place ≠ some (.directory guard) :=
          fun guard hguard => hplace ⟨guard, hguard⟩
        exact Or.inl ⟨.notDirectory, advance_outside houtside, advance_outside houtside⟩

/-- A walk ends in front of a name, or goes on from the directory in which that name is looked
up. -/
theorem walk_append (follow : Bool) (links : Nat) (place : Place) (front : List Name)
    (name : Name) (rest : List Name) :
    (∃ code, files.walk true links place (front ++ [Name.dot]) = .error code ∧
      files.walk follow links place (front ++ name :: rest) = .error code) ∨
    (∃ parent guard left, files.entry? parent = some (.directory guard) ∧
      files.walk true links place (front ++ [Name.dot]) =
        .ok (.present parent (.directory guard)) ∧
      files.walk follow links place (front ++ name :: rest) =
        files.walk follow left parent (name :: rest)) := by
  induction links generalizing place front with
  | zero =>
      rcases advance_append follow place front name rest with
        ⟨code, hfront, hall⟩ | ⟨parent, guard, hdirectory, hfront, hall⟩ |
          ⟨parent, target, more, hfront, hall⟩
      · exact Or.inl ⟨code, walk_of_error hfront, walk_of_error hall⟩
      · refine Or.inr ⟨parent, guard, 0, hdirectory, walk_of_arrived hfront, ?_⟩
        rw [walk, hall, walk]
      · exact Or.inl ⟨.tooManyLinks, walk_of_last_link hfront, walk_of_last_link hall⟩
  | succ links ih =>
      rcases advance_append follow place front name rest with
        ⟨code, hfront, hall⟩ | ⟨parent, guard, hdirectory, hfront, hall⟩ |
          ⟨parent, target, more, hfront, hall⟩
      · exact Or.inl ⟨code, walk_of_error hfront, walk_of_error hall⟩
      · refine Or.inr ⟨parent, guard, links + 1, hdirectory, walk_of_arrived hfront, ?_⟩
        rw [walk, hall, walk]
      · rw [walk_of_link hfront, walk_of_link hall, ← List.append_assoc, ← List.append_assoc]
        exact ih (startOf parent target) (target.steps ++ more)

/-- A walk that ends with a dot ends in a directory, whether or not its last link is followed. -/
theorem walk_dot (follow : Bool) (links : Nat) (place : Place) (front : List Name) :
    files.walk follow links place (front ++ [Name.dot]) =
      files.walk true links place (front ++ [Name.dot]) := by
  rcases files.walk_append follow links place front Name.dot [] with
    ⟨code, hfront, hall⟩ | ⟨parent, guard, left, hdirectory, hfront, hall⟩
  · rw [hfront, hall]
  · rw [hfront, hall]
    exact walk_of_arrived ((advance_dot hdirectory).trans (advance_nil hdirectory))

/-! ## Paths -/

theorem find?_eq_some_iff {follow : Bool} {path : Path} {place : Place} {entry : Entry} :
    files.find? follow path = some (place, entry) ↔
      refused? path = none ∧
        files.walk follow linkLimit (startOf files.here path) path.steps =
          .ok (.present place entry) := by
  unfold find? resolve
  cases hrefused : refused? path with
  | some error => simp
  | none =>
      cases hwalk : files.walk follow linkLimit (startOf files.here path) path.steps with
      | error code =>
          have hmap : Except.mapError IoError.os (.error code : Except Errno Spot) =
              .error (.os code) := rfl
          rw [hmap]
          simp
      | ok spot =>
          have hmap : Except.mapError IoError.os (.ok spot : Except Errno Spot) = .ok spot := rfl
          rw [hmap]
          cases spot <;> simp

theorem parentOf_eq_ok_iff {path : Path} {parent : Place} :
    files.parentOf path = .ok parent ↔
      ∃ entry, files.walk true linkLimit (startOf files.here path)
        (path.components.dropLast ++ [Name.dot]) = .ok (.present parent entry) := by
  unfold parentOf
  cases hwalk : files.walk true linkLimit (startOf files.here path)
      (path.components.dropLast ++ [Name.dot]) with
  | error code => simp
  | ok spot => cases spot <;> simp

theorem IsPart.find? {part whole : FileSystem} (hpart : part.IsPart whole) {follow : Bool}
    {path : Path} {place : Place} {entry : Entry}
    (hfind : part.find? follow path = some (place, entry)) :
    whole.find? follow path = some (place, entry) := by
  obtain ⟨hrefused, hwalk⟩ := find?_eq_some_iff.mp hfind
  rw [hpart.here] at hwalk
  exact find?_eq_some_iff.mpr ⟨hrefused, hpart.walk hwalk⟩

theorem IsPart.parentOf {part whole : FileSystem} (hpart : part.IsPart whole) {path : Path}
    {parent : Place} (hparent : part.parentOf path = .ok parent) :
    whole.parentOf path = .ok parent := by
  obtain ⟨entry, hwalk⟩ := parentOf_eq_ok_iff.mp hparent
  rw [hpart.here] at hwalk
  exact parentOf_eq_ok_iff.mpr ⟨entry, hpart.walk hwalk⟩

/-- The names of a path as a walk takes them: those in front of the last one, the last one, and a
dot if the path closes with a slash. -/
theorem steps_of_getLast? {path : Path} {name : Name}
    (hlast : path.components.getLast? = some name) :
    path.steps = path.components.dropLast ++
      name :: if path.endsWithSlash then [Name.dot] else [] := by
  obtain ⟨front, hfront⟩ := List.getLast?_eq_some_iff.mp hlast
  unfold Path.steps
  split <;> simp [hfront]

/-- Where a path that leads somewhere has its last name looked up. -/
theorem walk_of_find? {follow : Bool} {path : Path} {place : Place} {entry : Entry} {name : Name}
    (hfind : files.find? follow path = some (place, entry))
    (hlast : path.components.getLast? = some name) :
    ∃ parent guard left, files.entry? parent = some (.directory guard) ∧
      files.parentOf path = .ok parent ∧
      files.walk follow left parent (name :: if path.endsWithSlash then [Name.dot] else []) =
        .ok (.present place entry) := by
  obtain ⟨-, hwalk⟩ := find?_eq_some_iff.mp hfind
  rw [steps_of_getLast? hlast] at hwalk
  rcases files.walk_append follow linkLimit (startOf files.here path) path.components.dropLast
      name (if path.endsWithSlash then [Name.dot] else []) with
    ⟨code, -, hall⟩ | ⟨parent, guard, left, hdirectory, hfront, hall⟩
  · rw [hall] at hwalk
    cases hwalk
  · exact ⟨parent, guard, left, hdirectory, parentOf_eq_ok_iff.mpr ⟨_, hfront⟩, hall ▸ hwalk⟩

/-- A path leads where the leg from the directory in which its last name is looked up leads. -/
theorem find?_of_parentOf {follow : Bool} {path : Path} {parent place : Place} {name : Name}
    {entry : Entry} (hrefused : refused? path = none)
    (hlast : path.components.getLast? = some name) (hparent : files.parentOf path = .ok parent)
    (hleg : files.advance follow parent
      (name :: if path.endsWithSlash then [Name.dot] else []) =
        .ok (.arrived (.present place entry))) :
    files.find? follow path = some (place, entry) := by
  refine find?_eq_some_iff.mpr ⟨hrefused, ?_⟩
  rw [steps_of_getLast? hlast]
  obtain ⟨found, hfound⟩ := parentOf_eq_ok_iff.mp hparent
  rcases files.walk_append follow linkLimit (startOf files.here path) path.components.dropLast
      name (if path.endsWithSlash then [Name.dot] else []) with
    ⟨code, hfront, -⟩ | ⟨directory, guard, left, -, hfront, hall⟩
  · rw [hfront] at hfound
    cases hfound
  · rw [hfront] at hfound
    cases hfound
    rw [hall]
    exact walk_of_arrived hleg

theorem exists_directory_of_parentOf {path : Path} {parent : Place}
    (hparent : files.parentOf path = .ok parent) :
    ∃ guard, files.entry? parent = some (.directory guard) := by
  obtain ⟨found, hfound⟩ := parentOf_eq_ok_iff.mp hparent
  rcases files.walk_append true linkLimit (startOf files.here path) path.components.dropLast
      Name.dot [] with
    ⟨code, hfront, -⟩ | ⟨directory, guard, left, hdirectory, hfront, -⟩
  · rw [hfront] at hfound
    cases hfound
  · rw [hfront] at hfound
    cases hfound
    exact ⟨guard, hdirectory⟩

/-! ## The entry that a path names -/

/-- A path names an entry: the last name of the path, looked up in the directory where that is done,
and not followed. -/
structure Names (files : FileSystem) (path : Path) (parent : Place) (name : Name)
    (entry : Entry) : Prop where
  accepted : refused? path = none
  lastName : path.components.getLast? = some name
  lookedUpIn : files.parentOf path = .ok parent
  plain : name.IsPlain
  present : files.entry? (parent ++ [name]) = some entry

/-- A path that leads somewhere names an entry, unless its last name is a dot or two. -/
theorem exists_names_of_find? {follow : Bool} {path : Path} {place : Place} {entry : Entry}
    {name : Name} (hfind : files.find? follow path = some (place, entry))
    (hlast : path.components.getLast? = some name) (hdot : name ≠ Name.dot)
    (hdotDot : name ≠ Name.dotDot) :
    ∃ parent named, files.Names path parent name named := by
  obtain ⟨parent, guard, left, hdirectory, hparent, hwalk⟩ := walk_of_find? hfind hlast
  by_cases hlong : Name.maxLength < name.length
  · rw [walk_of_error (advance_long hdirectory hdot hdotDot hlong)] at hwalk
    cases hwalk
  have hplain : name.IsPlain := ⟨hdot, hdotDot, hlong⟩
  cases hnamed : files.entry? (parent ++ [name]) with
  | some named =>
      exact ⟨parent, named, (find?_eq_some_iff.mp hfind).1, hlast, hparent, hplain, hnamed⟩
  | none =>
      cases hslash : path.endsWithSlash with
      | false =>
          rw [hslash, if_neg (by simp),
            walk_of_arrived (advance_vacant hdirectory hplain hnamed)] at hwalk
          cases hwalk
      | true =>
          rw [hslash, if_pos rfl,
            walk_of_error (advance_missing hdirectory hplain hnamed (by simp))] at hwalk
          cases hwalk

/-- A path leads to the entry it names when that is not followed. -/
theorem Names.find?_false {path : Path} {parent : Place} {name : Name} {entry : Entry}
    (hnames : files.Names path parent name entry)
    (hslash : path.endsWithSlash = true → entry.isDirectory = true) :
    files.find? false path = some (parent ++ [name], entry) := by
  obtain ⟨guard, hdirectory⟩ := exists_directory_of_parentOf hnames.lookedUpIn
  apply find?_of_parentOf hnames.accepted hnames.lastName hnames.lookedUpIn
  have hentry := hnames.present
  cases hclosing : path.endsWithSlash with
  | true =>
      have hisDirectory := hslash hclosing
      cases entry with
      | file _ | link _ _ | socket _ => cases hisDirectory
      | directory inner =>
          rw [if_pos rfl, advance_entry hdirectory hnames.plain hentry rfl, advance_dot hentry,
            advance_nil hentry]
  | false =>
      rw [if_neg (by simp)]
      cases entry with
      | link object target => exact advance_last_link hdirectory hnames.plain hentry
      | directory _ | file _ | socket _ =>
          rw [advance_entry hdirectory hnames.plain hentry rfl, advance_nil hentry]

/-- Without the entry it names a path leads nowhere, not even through that entry. -/
theorem Names.find?_drop {path : Path} {parent : Place} {name : Name} {entry : Entry}
    (hnames : files.Names path parent name entry) (follow : Bool) :
    (files.drop (parent ++ [name])).find? follow path = none := by
  have hne : parent ++ [name] ≠ [] := by simp
  have hpart := IsPart.drop files hne
  cases hfind : (files.drop (parent ++ [name])).find? follow path with
  | none => rfl
  | some found =>
      obtain ⟨directory, named, hstill⟩ := exists_names_of_find? hfind hnames.lastName
        hnames.plain.ne_dot hnames.plain.ne_dotDot
      have hparent := hpart.parentOf hstill.lookedUpIn
      rw [hnames.lookedUpIn] at hparent
      cases hparent
      have hentry := hstill.present
      rw [entry?_drop_self files hne] at hentry
      cases hentry

/-- A path that leads somewhere when its last link is followed leads somewhere when it is not. -/
theorem exists_find?_false {path : Path} {place : Place} {entry : Entry}
    (hfind : files.find? true path = some (place, entry)) :
    ∃ spot named, files.find? false path = some (spot, named) := by
  obtain ⟨hrefused, hwalk⟩ := find?_eq_some_iff.mp hfind
  -- The steps of most paths end with a dot, and then nothing depends on the last link.
  have hdot : ∀ front, path.steps = front ++ [Name.dot] →
      ∃ spot named, files.find? false path = some (spot, named) := by
    intro front hsteps
    refine ⟨place, entry, find?_eq_some_iff.mpr ⟨hrefused, ?_⟩⟩
    rw [hsteps] at hwalk ⊢
    rw [walk_dot false, hwalk]
  cases hslash : path.endsWithSlash with
  | true => exact hdot path.components (by rw [Path.steps, if_pos hslash])
  | false =>
      have hsteps : path.steps = path.components := by simp [Path.steps, hslash]
      cases hlast : path.components.getLast? with
      | none =>
          rw [List.getLast?_eq_none_iff] at hlast
          refine ⟨place, entry, find?_eq_some_iff.mpr ⟨hrefused, ?_⟩⟩
          rw [hsteps, hlast] at hwalk ⊢
          cases hentry : files.entry? (startOf files.here path) with
          | none =>
              rw [walk_of_error (advance_nowhere hentry)] at hwalk
              cases hwalk
          | some found =>
              rw [walk_of_arrived (advance_nil hentry)] at hwalk ⊢
              exact hwalk
      | some name =>
          obtain ⟨front, hfront⟩ := List.getLast?_eq_some_iff.mp hlast
          by_cases hname : name = Name.dot
          · exact hdot front (by rw [hsteps, hfront, hname])
          by_cases hdotDot : name = Name.dotDot
          · obtain ⟨parent, guard, left, hdirectory, hparent, hgoes⟩ := walk_of_find? hfind hlast
            rw [hslash, if_neg (by simp), hdotDot] at hgoes
            cases habove : files.entry? parent.dropLast with
            | none =>
                have hleg : files.advance true parent [Name.dotDot] = .error .noEntry :=
                  (advance_dotDot hdirectory).trans (advance_nowhere habove)
                rw [walk_of_error hleg] at hgoes
                cases hgoes
            | some above =>
                refine ⟨parent.dropLast, above, find?_of_parentOf hrefused hlast hparent ?_⟩
                rw [hslash, if_neg (by simp), hdotDot, advance_dotDot hdirectory,
                  advance_nil habove]
          · obtain ⟨parent, named, hnames⟩ := exists_names_of_find? hfind hlast hname hdotDot
            exact ⟨_, _, hnames.find?_false (by simp [hslash])⟩

end Decommission.FileSystem
