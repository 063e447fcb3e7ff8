import Decommission.FileSystem.Resolve

/-!
# Reading and appending

A file is read as a whole.  A file that is to be appended to is made when it is not there.
-/

namespace Decommission.FileSystem

def readBytes (files : FileSystem) (path : Path) : Except IoError Bytes := do
  match ← files.resolve true path with
  | .present _ (.file object) =>
      match files.object? object with
      | some file => if file.access.readable then return file.content else throw (.os .accessDenied)
      | none => throw (.os .noEntry)
  | .present _ (.directory _) => throw (.os .isDirectory)
  | .present _ (.socket _) => throw (.os .noDevice)
  | .present _ (.link _ _) => throw (.os .tooManyLinks)
  | .vacant _ _ => throw (.os .noEntry)

/-- The content of the file a path leads to, which has to be text. -/
def readText (files : FileSystem) (path : Path) : Except IoError String := do
  match Utf8.decode? (← files.readBytes path) with
  | some text => return String.ofList text
  | none => throw .notText

/-- Opens the file a path leads to for appending, and makes it if there is none. -/
def openAppend (files : FileSystem) (path : Path) : Except IoError (ObjectId × FileSystem) := do
  match ← files.resolve true path with
  | .present _ (.file object) =>
      if (files.object? object).any (·.access.writable) then return (object, files)
      else throw (.os .accessDenied)
  | .present _ (.directory _) => throw (.os .isDirectory)
  | .present _ (.socket _) => throw (.os .noDevice)
  | .present _ (.link _ _) => throw (.os .tooManyLinks)
  | .vacant parent name =>
      if (files.guard? parent).isSome then throw (.os .accessDenied)
      else
        let (object, files) := files.addObject {}
        return (object, files.put (parent ++ [name]) (.file object))

end Decommission.FileSystem
