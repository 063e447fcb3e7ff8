import Decommission.FileSystem.Content
import Decommission.FileSystem.Remove

/-!
# Arranging a file system

What others do to a file system before and between the runs of this program: making, moving and
removing entries.  A change that is not possible leaves the file system as it is.
-/

namespace Decommission.FileSystem

/-- A path made of some of the names of another. -/
def ofNames (absolute : Bool) (names : List Name) : Path :=
  let bytes := List.intercalate [Path.slash] names
  ⟨if absolute then Path.slash :: bytes else bytes⟩

/-- The first name, the first two names and so on, each behind the names already passed. -/
def leadingNames (passed : List Name) : List Name → List (List Name)
  | [] => []
  | name :: rest => (passed ++ [name]) :: leadingNames (passed ++ [name]) rest

/-- The paths that lead to a path, the shortest first, and the path itself. -/
def leading (path : Path) : List Path :=
  (leadingNames [] path.components).map (ofNames path.isAbsolute)

/-- Puts an entry where a path leads to nothing yet. -/
def create (files : FileSystem) (path : Path) (entry : Entry) : FileSystem :=
  match files.resolve false path with
  | .ok (.vacant parent name) => files.put (parent ++ [name]) entry
  | _ => files

def makeDirectory (files : FileSystem) (path : Path) : FileSystem :=
  (leading path).foldl (fun files path => files.create path (.directory none)) files

def makeParents (files : FileSystem) (path : Path) : FileSystem :=
  (leading path).dropLast.foldl (fun files path => files.create path (.directory none)) files

/-- Gives a file its content.  A file that is there keeps its object. -/
def write (files : FileSystem) (path : Path) (content : Bytes) : FileSystem :=
  match (files.makeParents path).openAppend path with
  | .ok (object, files) => files.modifyObject object fun file => { file with content }
  | .error _ => files

def makeLink (files : FileSystem) (path target : Path) : FileSystem :=
  let (object, files) := (files.makeParents path).addObject {}
  files.create path (.link object target)

def makeSocket (files : FileSystem) (path : Path) : FileSystem :=
  let (object, files) := (files.makeParents path).addObject {}
  files.create path (.socket object)

/-- Gives an entry one more name.  A directory has only one. -/
def makeAlias (files : FileSystem) (path existing : Path) : FileSystem :=
  match files.find? false existing with
  | none | some (_, .directory _) => files
  | some (_, entry) => (files.makeParents path).create path entry

/-- Takes away an entry with everything below it. -/
def discard (files : FileSystem) (path : Path) : FileSystem :=
  match files.find? false path with
  | some (_, .directory _) => (files.removeTree path).2
  | some _ => (files.removeFile path).toOption.getD files
  | none => files

/-- The place a path names in a directory, whether something is there or not. -/
def named? (files : FileSystem) (path : Path) : Option Place :=
  match refused? path, files.parentOf path, path.components.getLast? with
  | none, .ok parent, some name =>
      if name = Name.dot ∨ name = Name.dotDot then none else some (parent ++ [name])
  | _, _, _ => none

/-- Moves the entry at one place, with everything below it, to another.  What is moved becomes the
youngest, so that a directory is still older than what is below it. -/
def move (files : FileSystem) (source destination : Place) : FileSystem :=
  let others := files.entries.filter fun entry => entry.1 ≠ destination
  let (moved, kept) :=
    others.partition fun entry => entry.1 = source ∨ Place.isBelow entry.1 source
  { files with
    entries := kept ++ moved.map fun (place, entry) =>
      (destination ++ place.drop source.length, entry) }

/-- An entry does not move below itself, a directory moves in the place of an empty directory only,
and anything else in the place of no directory. -/
def canMove (files : FileSystem) (source destination : Place) (entry : Entry) : Bool :=
  !Place.isBelow destination source &&
    match files.entry? destination with
    | none => true
    | some other =>
        entry.isDirectory == other.isDirectory && (files.below destination).isEmpty

/-- Moves an entry with everything below it.  Nothing changes if both names have one object. -/
def rename (files : FileSystem) (path target : Path) : FileSystem :=
  match files.named? path, files.named? target with
  | some source, some destination =>
      match files.entry? source with
      | none => files
      | some entry =>
          let object? := (files.entry? destination).bind Entry.object?
          if source = destination ∨ (object?.isSome ∧ entry.object? = object?) then files
          else if files.canMove source destination entry then files.move source destination
          else files
  | _, _ => files

/-- Sets what may be done with the file or the directory a path leads to. -/
def setAccess (files : FileSystem) (path : Path) (access : Access) : FileSystem :=
  match files.find? true path with
  | some (_, .file object) => files.modifyObject object fun file => { file with access }
  | some (place, .directory _) =>
      let guard := if access.writable then none else some .closed
      { files with
        entries := files.entries.map fun (other, entry) =>
          (other, if other = place then .directory guard else entry) }
  | _ => files

end Decommission.FileSystem
