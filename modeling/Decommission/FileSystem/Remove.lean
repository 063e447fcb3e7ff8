import Decommission.FileSystem.Resolve

/-!
# Removing entries

An entry is removed under its last name, which is not followed.  A directory goes only when it is
empty; a whole tree goes from the bottom up, and links in it are removed, not followed.
-/

namespace Decommission.FileSystem

/-- The error with which a guard refuses. -/
def refusal : Guard → Errno
  | .closed => .accessDenied
  | .fixed => .notPermitted

/-- Looks up the last name of a path in the directory where that is done.  A path without a name, or
with dots in its place, names no entry; `unnamed` is the answer to that. -/
def lookUp (files : FileSystem) (path : Path) (unnamed : Option Name → Errno) :
    Except IoError (Place × Name × Entry) := do
  if let some error := refused? path then throw error
  let parent ← files.parentOf path
  match path.components.getLast? with
  | none => throw (.os (unnamed none))
  | some name =>
      if name = Name.dot ∨ name = Name.dotDot then throw (.os (unnamed (some name)))
      else if Name.maxLength < name.length then throw (.os .nameTooLong)
      else
        match files.entry? (parent ++ [name]) with
        | none => throw (.os .noEntry)
        | some entry => return (parent, name, entry)

/-- The answer to the removal of a directory by a path that names none. -/
def unnamedDirectory : Option Name → Errno
  | none => .busy
  | some name => if name = Name.dotDot then .notEmpty else .invalid

def removeFile (files : FileSystem) (path : Path) : Except IoError FileSystem := do
  let (parent, name, entry) ← files.lookUp path fun _ => .isDirectory
  if path.endsWithSlash then
    throw (.os (if entry.isDirectory then .isDirectory else .notDirectory))
  else if files.guard? parent = some .closed then throw (.os .accessDenied)
  else if entry.isDirectory then throw (.os .isDirectory)
  else if files.guard? parent = some .fixed then throw (.os .notPermitted)
  else return files.drop (parent ++ [name])

/-- Removes an entry that is not a directory, or leaves the files as they are. -/
def unlink (files : FileSystem) (path : Path) : Except IoError Unit × FileSystem :=
  match files.removeFile path with
  | .ok files => (.ok (), files)
  | .error error => (.error error, files)

def removeDirectory (files : FileSystem) (path : Path) : Except IoError FileSystem := do
  let (parent, name, entry) ← files.lookUp path unnamedDirectory
  if files.guard? parent = some .closed then throw (.os .accessDenied)
  else if !entry.isDirectory then throw (.os .notDirectory)
  else if files.guard? parent = some .fixed then throw (.os .notPermitted)
  else if !(files.below (parent ++ [name])).isEmpty then throw (.os .notEmpty)
  else return files.drop (parent ++ [name])

/-- Removes the entries at the given places one after the other, up to the first one that its
directory does not give up. -/
def removeEach : List Place → FileSystem → Except IoError Unit × FileSystem
  | [], files => (.ok (), files)
  | place :: places, files =>
      match files.guard? place.dropLast with
      | some guard => (.error (.os (refusal guard)), files)
      | none => removeEach places (files.drop place)

/-- Removes a directory with everything below it, or a link in its place.  What has been removed when
an error occurs stays removed.  A directory that is no longer there in the end counts as removed. -/
def removeTree (files : FileSystem) (path : Path) : Except IoError Unit × FileSystem :=
  match files.resolve false path with
  | .error error => (.error error, files)
  | .ok (.vacant _ _) => (.error (.os .noEntry), files)
  | .ok (.present place entry) =>
      match entry with
      | .link _ _ => files.unlink path
      | .directory _ =>
          match removeEach (files.below place) files with
          | (.error error, files) => (.error error, files)
          | (.ok (), files) =>
              match files.removeDirectory path with
              | .ok files => (.ok (), files)
              | .error error => (if error = .os .noEntry then .ok () else .error error, files)
      | _ => (.error (.os .notDirectory), files)

end Decommission.FileSystem
