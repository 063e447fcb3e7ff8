import Decommission.Proofs.FileSystem.LastName
import Decommission.RunLog
import Mathlib.Tactic.SplitIfs

/-!
# Lines of the run log

A line goes to the file that is open, or else to the file that the path of the log leads to, which is
made if there is none.  Entries are never lost by that, and all but that one file stays as it is.
-/

namespace Decommission

namespace FileSystem

variable {files : FileSystem}

/-! ## Appending -/

@[simp]
theorem entry?_append (object : ObjectId) (bytes : Bytes) (place : Place) :
    entry? (files.append object bytes) place = files.entry? place := rfl

theorem isPart_append (files : FileSystem) (object : ObjectId) (bytes : Bytes) :
    (files.append object bytes).IsPart files :=
  ⟨rfl, fun _ _ hentry => hentry⟩

theorem append_append (files : FileSystem) (object : ObjectId) (first second : Bytes) :
    (files.append object first).append object second = files.append object (first ++ second) := by
  simp [append, modifyObject, List.modify_modify_eq, Function.comp_def]

theorem object?_append_self (files : FileSystem) (object : ObjectId) (bytes : Bytes) :
    (files.append object bytes).object? object =
      (files.object? object).map fun file => { file with content := file.content ++ bytes } := by
  simp [append, modifyObject, object?]

theorem object?_append_of_ne {object other : ObjectId} (hne : other ≠ object) (bytes : Bytes) :
    (files.append object bytes).object? other = files.object? other := by
  simp [append, modifyObject, object?, hne.symm]

theorem isSome_object?_append (files : FileSystem) (object other : ObjectId) (bytes : Bytes) :
    ((files.append object bytes).object? other).isSome = (files.object? other).isSome := by
  by_cases hsame : other = object
  · rw [hsame, object?_append_self, Option.isSome_map]
  · rw [object?_append_of_ne hsame]

theorem content_append_self {object : ObjectId} (hobject : (files.object? object).isSome)
    (bytes : Bytes) :
    (files.append object bytes).content object = files.content object ++ bytes := by
  obtain ⟨file, hfile⟩ := Option.isSome_iff_exists.mp hobject
  rw [content, content, object?_append_self, hfile]
  rfl

theorem content_append_of_ne {object other : ObjectId} (hne : other ≠ object) (bytes : Bytes) :
    (files.append object bytes).content other = files.content other := by
  rw [content, content, object?_append_of_ne hne]

/-! ## Opening -/

/-- A file that is opened for appending was there, or is put where nothing was. -/
theorem openAppend_eq_ok {path : Path} {object : ObjectId} {opened : FileSystem}
    (hopen : files.openAppend path = .ok (object, opened)) :
    (∃ place, files.find? true path = some (place, .file object)) ∧
        (files.object? object).isSome ∧ opened = files ∨
      ∃ parent name, files.resolve true path = .ok (.vacant parent name) ∧
        object = files.objects.length ∧
        opened = (files.addObject {}).2.put (parent ++ [name]) (.file object) := by
  unfold openAppend at hopen
  cases hresolve : files.resolve true path with
  | error error =>
      rw [hresolve] at hopen
      cases hopen
  | ok spot =>
      rw [hresolve] at hopen
      simp only [bind, Except.bind, pure, Except.pure, throw, throwThe,
        MonadExceptOf.throw] at hopen
      split at hopen
      · rename_i place found
        split_ifs at hopen with hwritable
        cases hopen
        exact Or.inl ⟨⟨place, by simp [find?, hresolve]⟩, Option.isSome_of_any hwritable, rfl⟩
      · cases hopen
      · cases hopen
      · cases hopen
      · rename_i parent name
        split_ifs at hopen
        cases hopen
        exact Or.inr ⟨parent, name, rfl, rfl, rfl⟩

/-- Opening loses no entry. -/
theorem isPart_openAppend {path : Path} {object : ObjectId} {opened : FileSystem}
    (hopen : files.openAppend path = .ok (object, opened)) : files.IsPart opened := by
  rcases openAppend_eq_ok hopen with ⟨-, -, rfl⟩ | ⟨parent, name, hresolve, -, rfl⟩
  · exact IsPart.refl _
  · obtain ⟨-, hnone⟩ := holds_of_resolve hresolve
    refine ⟨rfl, fun place entry hentry => ?_⟩
    have hne : place ≠ parent ++ [name] := by
      rintro rfl
      rw [hnone] at hentry
      cases hentry
    rw [entry?_put_of_ne _ hne]
    exact hentry

theorem root_openAppend {path : Path} {object : ObjectId} {opened : FileSystem}
    (hopen : files.openAppend path = .ok (object, opened)) : opened.root = files.root := by
  rcases openAppend_eq_ok hopen with ⟨-, -, rfl⟩ | ⟨parent, name, -, -, rfl⟩
  · rfl
  · rfl

/-- Opening changes no file that is there. -/
theorem object?_openAppend {path : Path} {object : ObjectId} {opened : FileSystem}
    (hopen : files.openAppend path = .ok (object, opened)) (other : ObjectId) :
    opened.object? other = files.object? other ∨
      other = object ∧ files.object? other = none := by
  rcases openAppend_eq_ok hopen with ⟨-, -, rfl⟩ | ⟨parent, name, -, rfl, rfl⟩
  · exact Or.inl rfl
  · show (files.objects ++ [_])[other]? = files.objects[other]? ∨ _
    rcases Nat.lt_trichotomy other files.objects.length with hless | hsame | hmore
    · exact Or.inl (List.getElem?_append_left hless)
    · exact Or.inr ⟨hsame, List.getElem?_eq_none (Nat.le_of_eq hsame.symm)⟩
    · have hlength : (files.objects ++ [({} : FileObject)]).length ≤ other := by
        rw [List.length_append]
        exact hmore
      rw [List.getElem?_eq_none hlength, List.getElem?_eq_none (Nat.le_of_lt hmore)]
      exact Or.inl rfl

/-- What is opened is there. -/
theorem isSome_of_openAppend {path : Path} {object : ObjectId} {opened : FileSystem}
    (hopen : files.openAppend path = .ok (object, opened)) :
    (opened.object? object).isSome := by
  rcases openAppend_eq_ok hopen with ⟨-, hobject, rfl⟩ | ⟨parent, name, -, rfl, rfl⟩
  · exact hobject
  · simp [addObject, put, drop, object?]

/-- Opening adds no file but an empty one. -/
theorem content_openAppend {path : Path} {object : ObjectId} {opened : FileSystem}
    (hopen : files.openAppend path = .ok (object, opened)) (other : ObjectId) :
    opened.content other = files.content other := by
  rcases openAppend_eq_ok hopen with ⟨-, -, rfl⟩ | ⟨parent, name, -, -, rfl⟩
  · rfl
  · show (((files.objects ++ [({} : FileObject)])[other]?).map _).getD [] = _
    rw [content, object?, List.getElem?_append]
    split
    · rfl
    · rename_i hbeyond
      rw [List.getElem?_eq_none (Nat.le_of_not_lt hbeyond), List.getElem?_singleton]
      split <;> rfl

theorem isSome_object?_openAppend {path : Path} {object : ObjectId} {opened : FileSystem}
    (hopen : files.openAppend path = .ok (object, opened)) {other : ObjectId}
    (hother : (files.object? other).isSome) : (opened.object? other).isSome := by
  rcases object?_openAppend hopen other with hsame | ⟨-, hnone⟩
  · rwa [hsame]
  · rw [hnone] at hother
    cases hother

end FileSystem

namespace RunLog

variable {log : RunLog} {files opened : FileSystem} {object : ObjectId}

/-- The file that the next line goes to. -/
def attach (log : RunLog) (files : FileSystem) : Except IoError (ObjectId × FileSystem) :=
  match log.handle with
  | some object => .ok (object, files)
  | none => files.openAppend log.path

theorem attach_eq_ok (hattach : log.attach files = .ok (object, opened)) :
    log.handle = some object ∧ opened = files ∨
      log.handle = none ∧ files.openAppend log.path = .ok (object, opened) := by
  unfold attach at hattach
  cases hhandle : log.handle with
  | some current =>
      rw [hhandle] at hattach
      cases hattach
      exact Or.inl ⟨rfl, rfl⟩
  | none =>
      rw [hhandle] at hattach
      exact Or.inr ⟨rfl, hattach⟩

theorem write_of_attach (hattach : log.attach files = .ok (object, opened)) (stamp : Stamp)
    (message : String) :
    log.write stamp message files =
      ({ log with handle := some object }, opened.append object (bytesOf (line stamp message))) := by
  unfold attach at hattach
  unfold write
  cases hhandle : log.handle with
  | some current =>
      rw [hhandle] at hattach
      cases hattach
      obtain ⟨path, entryPoint, handle⟩ := log
      cases hhandle
      rfl
  | none =>
      rw [hhandle] at hattach
      simp only at hattach ⊢
      rw [hattach]

theorem write_of_refused {error : IoError} (hattach : log.attach files = .error error)
    (stamp : Stamp) (message : String) : log.write stamp message files = (log, files) := by
  unfold attach at hattach
  unfold write
  cases hhandle : log.handle with
  | some object =>
      rw [hhandle] at hattach
      cases hattach
  | none =>
      rw [hhandle] at hattach
      simp only at hattach ⊢
      rw [hattach]

theorem attach_of_handle (hhandle : log.handle = some object) (files : FileSystem) :
    log.attach files = .ok (object, files) := by
  simp [attach, hhandle]

theorem isPart_attach (hattach : log.attach files = .ok (object, opened)) :
    files.IsPart opened := by
  rcases attach_eq_ok hattach with ⟨-, rfl⟩ | ⟨-, hopen⟩
  · exact FileSystem.IsPart.refl _
  · exact FileSystem.isPart_openAppend hopen

@[simp]
theorem entryPoint_write (log : RunLog) (stamp : Stamp) (message : String) (files : FileSystem) :
    (log.write stamp message files).1.entryPoint = log.entryPoint := by
  unfold write
  dsimp only
  split
  · rfl
  · split <;> rfl

end RunLog

end Decommission
