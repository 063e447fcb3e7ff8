import Decommission.Proofs.FileSystem.Followed
import Decommission.Proofs.FileSystem.Trail
import Decommission.Proofs.Log.Line

/-!
# What files contain

Where a path leads and what is removed depends on the entries alone.  File objects can be exchanged,
and the same is found and the same is removed.  In particular this is so for two file systems that
are the same but for the content of some objects.
-/

namespace Decommission

namespace FileSystem

/-- The same entries with other file objects. -/
def withObjects (files : FileSystem) (objects : List FileObject) : FileSystem :=
  { files with objects }

section WithObjects

variable (files : FileSystem) (objects : List FileObject)

@[simp]
theorem here_withObjects : (files.withObjects objects).here = files.here := rfl

@[simp]
theorem entry?_withObjects (place : Place) :
    entry? (files.withObjects objects) place = files.entry? place := rfl

@[simp]
theorem guard?_withObjects (place : Place) :
    (files.withObjects objects).guard? place = files.guard? place := rfl

@[simp]
theorem below_withObjects (place : Place) :
    (files.withObjects objects).below place = files.below place := rfl

@[simp]
theorem drop_withObjects (place : Place) :
    (files.withObjects objects).drop place = (files.drop place).withObjects objects := rfl

@[simp]
theorem walk_withObjects (follow : Bool) (links : Nat) (place : Place) (steps : List Name) :
    (files.withObjects objects).walk follow links place steps =
      files.walk follow links place steps :=
  (walk_congr fun _ _ => entry?_withObjects files objects _).2

@[simp]
theorem resolve_withObjects (follow : Bool) (path : Path) :
    (files.withObjects objects).resolve follow path = files.resolve follow path := by
  simp only [resolve, here_withObjects, walk_withObjects]

@[simp]
theorem find?_withObjects (follow : Bool) (path : Path) :
    (files.withObjects objects).find? follow path = files.find? follow path := by
  simp only [find?, resolve_withObjects]

@[simp]
theorem parentOf_withObjects (path : Path) :
    (files.withObjects objects).parentOf path = files.parentOf path := by
  simp only [parentOf, here_withObjects, walk_withObjects]

@[simp]
theorem lookUp_withObjects (path : Path) (unnamed : Option Name → Errno) :
    (files.withObjects objects).lookUp path unnamed = files.lookUp path unnamed := by
  simp only [lookUp, parentOf_withObjects, entry?_withObjects]

theorem removeFile_withObjects (path : Path) :
    (files.withObjects objects).removeFile path =
      (files.removeFile path).map (·.withObjects objects) := by
  unfold removeFile
  rw [lookUp_withObjects]
  cases files.lookUp path fun _ => .isDirectory with
  | error error => rfl
  | ok found =>
      obtain ⟨parent, name, entry⟩ := found
      dsimp only [bind, Except.bind]
      rw [guard?_withObjects, drop_withObjects]
      split_ifs <;> rfl

@[simp]
theorem unlink_withObjects (path : Path) :
    (files.withObjects objects).unlink path =
      ((files.unlink path).1, (files.unlink path).2.withObjects objects) := by
  unfold unlink
  rw [removeFile_withObjects]
  cases files.removeFile path <;> rfl

theorem removeDirectory_withObjects (path : Path) :
    (files.withObjects objects).removeDirectory path =
      (files.removeDirectory path).map (·.withObjects objects) := by
  unfold removeDirectory
  rw [lookUp_withObjects]
  cases files.lookUp path unnamedDirectory with
  | error error => rfl
  | ok found =>
      obtain ⟨parent, name, entry⟩ := found
      dsimp only [bind, Except.bind]
      rw [guard?_withObjects, below_withObjects, drop_withObjects]
      split_ifs <;> rfl

theorem removeEach_withObjects (places : List Place) :
    removeEach places (files.withObjects objects) =
      ((removeEach places files).1, (removeEach places files).2.withObjects objects) := by
  induction places generalizing files with
  | nil => rfl
  | cons place places ih =>
      unfold removeEach
      rw [guard?_withObjects]
      cases files.guard? place.dropLast with
      | some guard => rfl
      | none =>
          rw [drop_withObjects]
          exact ih (files.drop place)

@[simp]
theorem removeTree_withObjects (path : Path) :
    (files.withObjects objects).removeTree path =
      ((files.removeTree path).1, (files.removeTree path).2.withObjects objects) := by
  unfold removeTree
  rw [resolve_withObjects]
  cases files.resolve false path with
  | error error => rfl
  | ok spot =>
      cases spot with
      | vacant parent name => rfl
      | present place entry =>
          cases entry with
          | file _ | socket _ => rfl
          | link object target => exact unlink_withObjects files objects path
          | directory guard =>
              dsimp only
              rw [below_withObjects, removeEach_withObjects]
              obtain ⟨answer, left⟩ := removeEach (files.below place) files
              cases answer with
              | error error => rfl
              | ok _ =>
                  dsimp only
                  rw [removeDirectory_withObjects]
                  cases left.removeDirectory path <;> rfl

end WithObjects

/-! ## Paths without a directory -/

theorem exists_steps {path : Path} (hbytes : path.bytes ≠ []) :
    ∃ name rest, path.steps = path.components.dropLast ++ name :: rest := by
  cases hlast : path.components.getLast? with
  | some name => exact ⟨name, _, steps_of_getLast? hlast⟩
  | none =>
      obtain ⟨name, rest, hsteps⟩ := List.exists_cons_of_ne_nil (Path.steps_ne_nil hbytes)
      rw [List.getLast?_eq_none_iff] at hlast
      exact ⟨name, rest, by rw [hlast, hsteps]; rfl⟩

variable {files : FileSystem} {path : Path}

/-- Where the directory of a path is not found, the path leads nowhere at all. -/
theorem resolve_of_parentOf {error : IoError} (hparent : files.parentOf path = .error error)
    (follow : Bool) : ∃ cause, files.resolve follow path = .error cause := by
  unfold resolve
  cases hrefused : refused? path with
  | some cause => exact ⟨cause, rfl⟩
  | none =>
      have hbytes : path.bytes ≠ [] := by
        intro hempty
        simp [refused?, Path.isEmpty, Path.hasNul, hempty] at hrefused
      obtain ⟨name, rest, hsteps⟩ := exists_steps hbytes
      rcases files.walk_append follow linkLimit (startOf files.here path)
          path.components.dropLast name rest with
        ⟨code, -, hwalk⟩ | ⟨parent, guard, left, -, hfront, -⟩
      · exact ⟨.os code, by rw [hsteps, hwalk]; rfl⟩
      · rw [parentOf_eq_ok_iff.mpr ⟨_, hfront⟩] at hparent
        cases hparent

theorem openAppend_of_parentOf {error : IoError} (hparent : files.parentOf path = .error error) :
    ∃ cause, files.openAppend path = .error cause := by
  obtain ⟨cause, hresolve⟩ := resolve_of_parentOf hparent true
  exact ⟨cause, by rw [openAppend, hresolve]; rfl⟩

/-- A directory that is not found in the whole is not found in a part. -/
theorem IsPart.parentOf_eq_error {part whole : FileSystem} (hpart : part.IsPart whole)
    {error : IoError} (hparent : whole.parentOf path = .error error) :
    ∃ cause, part.parentOf path = .error cause := by
  cases hfound : part.parentOf path with
  | error cause => exact ⟨cause, rfl⟩
  | ok parent =>
      rw [hpart.parentOf hfound] at hparent
      cases hparent

/-! ## The same but for some contents -/

/-- Two file systems that are the same but for what these objects contain. -/
structure SameBut (hidden : ObjectId → Prop) (first second : FileSystem) : Prop where
  entries : second.entries = first.entries
  here : second.here = first.here
  root : second.root = first.root
  access : ∀ object,
    (second.object? object).map (·.access) = (first.object? object).map (·.access)
  object? : ∀ object, ¬hidden object → second.object? object = first.object? object

namespace SameBut

variable {hidden : ObjectId → Prop} {first second third : FileSystem}

theorem refl (hidden : ObjectId → Prop) (files : FileSystem) : files.SameBut hidden files :=
  ⟨rfl, rfl, rfl, fun _ => rfl, fun _ _ => rfl⟩

theorem symm (hsame : first.SameBut hidden second) : second.SameBut hidden first :=
  ⟨hsame.entries.symm, hsame.here.symm, hsame.root.symm, fun object => (hsame.access object).symm,
    fun object hobject => (hsame.object? object hobject).symm⟩

theorem trans (hfirst : first.SameBut hidden second) (hsecond : second.SameBut hidden third) :
    first.SameBut hidden third :=
  ⟨hsecond.entries.trans hfirst.entries, hsecond.here.trans hfirst.here,
    hsecond.root.trans hfirst.root,
    fun object => (hsecond.access object).trans (hfirst.access object),
    fun object hobject => (hsecond.object? object hobject).trans (hfirst.object? object hobject)⟩

theorem append (files : FileSystem) {object : ObjectId} (hobject : hidden object)
    (bytes : Bytes) : files.SameBut hidden (files.append object bytes) := by
  refine ⟨rfl, rfl, rfl, fun other => ?_, fun other hother => ?_⟩
  · by_cases hsame : other = object
    · rw [hsame, object?_append_self, Option.map_map]
      rfl
    · rw [object?_append_of_ne hsame]
  · have hne : other ≠ object := by
      rintro rfl
      exact hother hobject
    exact object?_append_of_ne hne bytes

theorem eq_withObjects (hsame : first.SameBut hidden second) :
    second = first.withObjects second.objects := by
  obtain ⟨entries, objects, here, root⟩ := second
  have hentries : entries = first.entries := hsame.entries
  have hhere : here = first.here := hsame.here
  have hroot : root = first.root := hsame.root
  rw [hentries, hhere, hroot]
  rfl

theorem isPart (hsame : first.SameBut hidden second) : second.IsPart first := by
  rw [hsame.eq_withObjects]
  exact ⟨rfl, fun _ _ hentry => hentry⟩

/-- What is known of the objects outlives the removal of entries. -/
theorem of_objects {first' second' : FileSystem} (hsame : first.SameBut hidden second)
    (hfirst : first'.objects = first.objects)
    (hsecond : second' = first'.withObjects second.objects) : first'.SameBut hidden second' := by
  subst hsecond
  have hobject? : ∀ object, first'.object? object = first.object? object := by
    intro object
    rw [FileSystem.object?, hfirst, FileSystem.object?]
  refine ⟨rfl, rfl, rfl, fun object => ?_, fun object hobject => ?_⟩
  · rw [hobject?]
    exact hsame.access object
  · rw [hobject?]
    exact hsame.object? object hobject

end SameBut

end FileSystem

end Decommission
