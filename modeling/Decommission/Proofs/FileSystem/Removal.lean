import Decommission.Proofs.FileSystem.LastName
import Mathlib.Tactic.SplitIfs

/-!
# What removals do

The removal of an entry drops the one that its path names, or it fails.  That it fails because there
is no entry says that the path leads nowhere.  A tree is removed in parts.
-/

namespace Decommission.FileSystem

variable {files : FileSystem}

/-! ## Paths that lead nowhere -/

theorem find?_eq_none_of_refused {path : Path} {error : IoError} (follow : Bool)
    (hrefused : refused? path = some error) : files.find? follow path = none := by
  simp [find?, resolve, hrefused]

theorem find?_eq_none_of_parentOf {path : Path} (follow : Bool)
    (hparent : files.parentOf path = .error (.os .noEntry)) :
    files.find? follow path = none := by
  cases hfind : files.find? follow path with
  | none => rfl
  | some found =>
      cases hlast : path.components.getLast? with
      | some name =>
          obtain ⟨parent, -, -, -, hfound, -⟩ := walk_of_find? hfind hlast
          rw [hfound] at hparent
          cases hparent
      | none =>
          -- Only the start is looked at, and that is there or is no directory.
          rw [List.getLast?_eq_none_iff] at hlast
          unfold parentOf at hparent
          rw [hlast, List.dropLast_nil, List.nil_append] at hparent
          by_cases hstart : ∃ guard, files.entry? (startOf files.here path) =
              some (.directory guard)
          · obtain ⟨guard, hdirectory⟩ := hstart
            rw [walk_of_arrived ((advance_dot hdirectory).trans (advance_nil hdirectory))]
              at hparent
            cases hparent
          · rw [walk_of_error (advance_outside fun guard hguard => hstart ⟨guard, hguard⟩)]
              at hparent
            cases hparent

theorem find?_eq_none_of_missing {path : Path} {parent : Place} {name : Name} (follow : Bool)
    (hparent : files.parentOf path = .ok parent) (hlast : path.components.getLast? = some name)
    (hdots : ¬(name = Name.dot ∨ name = Name.dotDot))
    (hnone : files.entry? (parent ++ [name]) = none) : files.find? follow path = none := by
  cases hfind : files.find? follow path with
  | none => rfl
  | some found =>
      obtain ⟨hdot, hdotDot⟩ := not_or.mp hdots
      obtain ⟨directory, named, hnames⟩ := exists_names_of_find? hfind hlast hdot hdotDot
      have hsame := hnames.lookedUpIn
      rw [hparent] at hsame
      cases hsame
      have hentry := hnames.present
      rw [hnone] at hentry
      cases hentry

/-! ## Single entries -/

theorem lookUp_eq_ok {path : Path} {unnamed : Option Name → Errno} {parent : Place} {name : Name}
    {entry : Entry} (hlookUp : files.lookUp path unnamed = .ok (parent, name, entry)) :
    files.Names path parent name entry := by
  unfold lookUp at hlookUp
  cases hrefused : refused? path with
  | some error =>
      rw [hrefused] at hlookUp
      cases hlookUp
  | none =>
      cases hparent : files.parentOf path with
      | error error =>
          rw [hrefused, hparent] at hlookUp
          cases hlookUp
      | ok directory =>
          rw [hrefused, hparent] at hlookUp
          simp only [bind, Except.bind, pure, Except.pure, throw, throwThe,
            MonadExceptOf.throw] at hlookUp
          split at hlookUp
          · cases hlookUp
          · rename_i last hlast
            split_ifs at hlookUp with hdots hlong
            split at hlookUp
            · cases hlookUp
            · rename_i found hfound
              cases hlookUp
              exact ⟨hrefused, hlast, hparent, ⟨fun h => hdots (Or.inl h),
                fun h => hdots (Or.inr h), hlong⟩, hfound⟩

/-- Where nothing is found, the path leads nowhere. -/
theorem find?_eq_none_of_lookUp {path : Path} {unnamed : Option Name → Errno}
    (hunnamed : ∀ last, unnamed last ≠ .noEntry) (follow : Bool)
    (hlookUp : files.lookUp path unnamed = .error (.os .noEntry)) :
    files.find? follow path = none := by
  unfold lookUp at hlookUp
  cases hrefused : refused? path with
  | some error => exact find?_eq_none_of_refused follow hrefused
  | none =>
      cases hparent : files.parentOf path with
      | error error =>
          rw [hrefused, hparent] at hlookUp
          cases hlookUp
          exact find?_eq_none_of_parentOf follow hparent
      | ok directory =>
          rw [hrefused, hparent] at hlookUp
          simp only [bind, Except.bind, pure, Except.pure, throw, throwThe,
            MonadExceptOf.throw] at hlookUp
          split at hlookUp
          · exact absurd (IoError.os.inj (Except.error.inj hlookUp)) (hunnamed none)
          · rename_i last hlast
            split_ifs at hlookUp with hdots hlong
            · exact absurd (IoError.os.inj (Except.error.inj hlookUp)) (hunnamed (some last))
            · cases hlookUp
            · split at hlookUp
              · rename_i hnone
                exact find?_eq_none_of_missing follow hparent hlast hdots hnone
              · cases hlookUp

theorem removeFile_eq_ok {path : Path} {after : FileSystem}
    (hremove : files.removeFile path = .ok after) :
    ∃ parent name entry, files.Names path parent name entry ∧ entry.isDirectory = false ∧
      path.endsWithSlash = false ∧ after = files.drop (parent ++ [name]) := by
  unfold removeFile at hremove
  cases hlookUp : files.lookUp path fun _ => .isDirectory with
  | error error =>
      rw [hlookUp] at hremove
      cases hremove
  | ok found =>
      obtain ⟨parent, name, entry⟩ := found
      rw [hlookUp] at hremove
      simp only [bind, Except.bind, pure, Except.pure, throw, throwThe,
        MonadExceptOf.throw] at hremove
      split_ifs at hremove with hslash _ hdirectory
      cases hremove
      exact ⟨parent, name, entry, lookUp_eq_ok hlookUp, by simpa using hdirectory,
        by simpa using hslash, rfl⟩

theorem find?_eq_none_of_removeFile {path : Path} (follow : Bool)
    (hremove : files.removeFile path = .error (.os .noEntry)) :
    files.find? follow path = none := by
  unfold removeFile at hremove
  cases hlookUp : files.lookUp path fun _ => .isDirectory with
  | error error =>
      rw [hlookUp] at hremove
      cases hremove
      exact find?_eq_none_of_lookUp (fun _ => by decide) follow hlookUp
  | ok found =>
      rw [hlookUp] at hremove
      simp only [bind, Except.bind, pure, Except.pure, throw, throwThe,
        MonadExceptOf.throw] at hremove
      split_ifs at hremove <;> cases hremove

theorem removeDirectory_eq_ok {path : Path} {after : FileSystem}
    (hremove : files.removeDirectory path = .ok after) :
    ∃ parent name entry, files.Names path parent name entry ∧ entry.isDirectory = true ∧
      files.below (parent ++ [name]) = [] ∧ after = files.drop (parent ++ [name]) := by
  unfold removeDirectory at hremove
  cases hlookUp : files.lookUp path unnamedDirectory with
  | error error =>
      rw [hlookUp] at hremove
      cases hremove
  | ok found =>
      obtain ⟨parent, name, entry⟩ := found
      rw [hlookUp] at hremove
      simp only [bind, Except.bind, pure, Except.pure, throw, throwThe,
        MonadExceptOf.throw] at hremove
      split_ifs at hremove with _ hdirectory _ hbelow
      cases hremove
      exact ⟨parent, name, entry, lookUp_eq_ok hlookUp, by simpa using hdirectory,
        by simpa using hbelow, rfl⟩

theorem find?_eq_none_of_removeDirectory {path : Path} (follow : Bool)
    (hremove : files.removeDirectory path = .error (.os .noEntry)) :
    files.find? follow path = none := by
  have hunnamed : ∀ last, unnamedDirectory last ≠ .noEntry := by
    intro last
    unfold unnamedDirectory
    split
    · decide
    · split_ifs <;> decide
  unfold removeDirectory at hremove
  cases hlookUp : files.lookUp path unnamedDirectory with
  | error error =>
      rw [hlookUp] at hremove
      cases hremove
      exact find?_eq_none_of_lookUp hunnamed follow hlookUp
  | ok found =>
      rw [hlookUp] at hremove
      simp only [bind, Except.bind, pure, Except.pure, throw, throwThe,
        MonadExceptOf.throw] at hremove
      split_ifs at hremove <;> cases hremove

/-! ## Trees -/

theorem refusal_ne_noEntry (guard : Guard) : refusal guard ≠ .noEntry := by
  cases guard <;> decide

/-- Entries that are dropped by their places are never looked for. -/
theorem removeEach_ne_noEntry (places : List Place) (files : FileSystem) :
    (removeEach places files).1 ≠ .error (.os .noEntry) := by
  induction places generalizing files with
  | nil => simp [removeEach]
  | cons place places ih =>
      unfold removeEach
      split
      · intro h
        exact absurd (IoError.os.inj (Except.error.inj h)) (refusal_ne_noEntry _)
      · exact ih _

theorem resolve_of_find? {path : Path} {follow : Bool} {place : Place} {entry : Entry}
    (hfind : files.find? follow path = some (place, entry)) :
    files.resolve follow path = .ok (.present place entry) := by
  rw [find?] at hfind
  split at hfind
  · rename_i hresolve
    cases hfind
    exact hresolve
  · cases hfind

theorem removeTree_of_link {path target : Path} {place : Place} {object : ObjectId}
    (hlink : files.find? false path = some (place, .link object target)) :
    files.removeTree path = files.unlink path := by
  rw [removeTree, resolve_of_find? hlink]

/-- What the removal of a tree comes to. -/
inductive TreeRemoval (files : FileSystem) (path : Path) :
    Except IoError Unit × FileSystem → Prop where
  | nowhere {error} (hnone : files.find? false path = none) :
      TreeRemoval files path (.error error, files)
  | noDirectory : TreeRemoval files path (.error (.os .notDirectory), files)
  | link {place object target}
      (hlink : files.find? false path = some (place, .link object target)) :
      TreeRemoval files path (files.unlink path)
  /-- Something below the directory stays. -/
  | notEmptied {place guard error left}
      (hfind : files.find? false path = some (place, .directory guard))
      (heach : removeEach (files.below place) files = (.error error, left)) :
      TreeRemoval files path (.error error, left)
  /-- The directory is empty and stays. -/
  | kept {place guard error left}
      (hfind : files.find? false path = some (place, .directory guard))
      (heach : removeEach (files.below place) files = (.ok (), left))
      (hdirectory : left.removeDirectory path = .error error) (hfound : error ≠ .os .noEntry) :
      TreeRemoval files path (.error error, left)
  /-- The path led to the directory through itself, and leads nowhere any more. -/
  | lost {place guard left}
      (hfind : files.find? false path = some (place, .directory guard))
      (heach : removeEach (files.below place) files = (.ok (), left))
      (hdirectory : left.removeDirectory path = .error (.os .noEntry)) :
      TreeRemoval files path (.ok (), left)
  | complete {place guard left after}
      (hfind : files.find? false path = some (place, .directory guard))
      (heach : removeEach (files.below place) files = (.ok (), left))
      (hdirectory : left.removeDirectory path = .ok after) :
      TreeRemoval files path (.ok (), after)

theorem removeTree_cases (files : FileSystem) (path : Path) :
    files.TreeRemoval path (files.removeTree path) := by
  cases hresolve : files.resolve false path with
  | error error =>
      rw [removeTree, hresolve]
      exact .nowhere (by simp [find?, hresolve])
  | ok spot =>
      cases spot with
      | vacant parent name =>
          rw [removeTree, hresolve]
          exact .nowhere (by simp [find?, hresolve])
      | present place entry =>
          have hfind : files.find? false path = some (place, entry) := by
            rw [find?, hresolve]
          cases entry with
          | link object target =>
              rw [removeTree_of_link hfind]
              exact .link hfind
          | file object | socket object =>
              rw [removeTree, hresolve]
              exact .noDirectory
          | directory guard =>
              rw [removeTree, hresolve]
              dsimp only
              cases heach : removeEach (files.below place) files with
              | mk answer left =>
                  cases answer with
                  | error error => exact .notEmptied hfind heach
                  | ok _ =>
                      dsimp only
                      cases hdirectory : left.removeDirectory path with
                      | ok after => exact .complete hfind heach hdirectory
                      | error error =>
                          by_cases hfound : error = .os .noEntry
                          · subst hfound
                            exact .lost hfind heach hdirectory
                          · dsimp only
                            rw [if_neg hfound]
                            exact .kept hfind heach hdirectory hfound

end Decommission.FileSystem
