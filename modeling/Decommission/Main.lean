import Decommission.FileSystem.Arrange
import Decommission.Invocation
import Std.Time

/-!
# The program

The outermost layer.  It takes a picture of those parts of the file system that an invocation can
touch, performs the invocation on the picture, and then makes the same changes outside: it removes
the entries that are gone from the picture and appends the new lines of the run log.  It starts no
programs, so that every service counts as one whose control program is not installed.
-/

namespace Decommission.Main

/-- No program is ever started: the control program passes for one that is not installed, so that a
run fails over its first query, and only a run without services comes to an end. -/
def children : Children Unit where
  spawn _ _ _ running := (.error (.os .noEntry), running)
  wait _ calls running := (.ok ⟨none, []⟩, calls, running)

/-- A clock that stands still. -/
def clock : Clock Stamp where
  now stamp := (0, stamp)
  stamp stamp := (stamp, stamp)
  pause _ stamp := (none, stamp)

def currentStamp : IO Stamp := do
  let time ← Std.Time.PlainDateTime.now
  return ⟨time.year.toInt.toNat, time.month.val.toNat, time.day.val.toNat, time.hour.val.toNat,
    time.minute.val.toNat, time.second.val.toNat⟩

/-- How deep directories are looked into, and how many links are followed. -/
def depthLimit : Nat := 200

def leading (path : String) : List String :=
  (FileSystem.leading (.ofString path)).map (·.display)

/-- Adds what is outside under a path to the picture: the entry itself, what a link leads to, and
on request everything below a directory. -/
def observe (whole : Bool) : (depth : Nat) → String → FileSystem → IO FileSystem
  | 0, _, files => return files
  | depth + 1, path, files => do
      let outside := (← IO.currentDir) / path
      match ← outside.symlinkMetadata.toBaseIO with
      | .error _ => return files
      | .ok metadata =>
          let place := Path.ofString path
          match metadata.type with
          | .dir =>
              let mut files := files.create place (.directory none)
              if whole then
                for child in ← outside.readDir do
                  files ← observe whole depth (path ++ "/" ++ child.fileName) files
              return files
          | .file => return files.write place []
          | .symlink =>
              match ← (IO.FS.realPath outside).toBaseIO with
              | .error _ => return files.makeLink place place
              | .ok target =>
                  let mut files := files.makeLink place (.ofString target.toString)
                  for above in leading target.toString do
                    files ← observe false depth above files
                  return files
          | .other => return files.makeSocket place

/-- Adds everything that leads to a path, the path itself and, on request, everything below it. -/
def observePath (whole : Bool) (files : FileSystem) (path : String) : IO FileSystem := do
  let mut files := files
  for above in leading path do
    files ← observe false depthLimit above files
  if whole then observe whole depthLimit path files else return files

def contentOf (path : String) : IO Bytes := do
  match ← (IO.FS.readBinFile path).toBaseIO with
  | .ok bytes => return bytes.toList
  | .error _ => return []

/-- The picture that an invocation is performed on. -/
def picture (line : CommandLine) : IO FileSystem := do
  let home := (← IO.currentDir).toString
  let mut files : FileSystem := { FileSystem.empty with here := (Path.ofString home).components }
  files ← observePath false files home
  if let some path := line.config then
    files ← observePath false files path.display
    if (files.readBytes path).isOk then
      files := files.write path (← contentOf path.display)
  match Invocation.configuration line files with
  | .error _ => observePath false files line.fallbackLogPath.display
  | .ok config =>
      for target in config.targets do
        files ← observePath true files target.path.display
      observePath false files config.logPath.display

/-- Removes the entries that are gone from the picture, the innermost first. -/
def removeGone (before after : FileSystem) : IO Unit := do
  for (place, entry) in before.entries.reverse do
    if (after.entry? place).isNone then
      let path := (FileSystem.ofNames true place).display
      if entry.isDirectory then IO.FS.removeDir path else IO.FS.removeFile path

/-- Appends what the run log has gained. -/
def appendNew (before after : FileSystem) (path : Path) : IO Unit := do
  let old := (before.readBytes path).toOption.getD []
  let new := ((after.readBytes path).toOption.getD []).drop old.length
  if !new.isEmpty then
    let file ← IO.FS.Handle.mk path.display .append
    file.write new.toByteArray

/-- The run log of an invocation. -/
def logPath (line : CommandLine) (files : FileSystem) : Path :=
  match Invocation.configuration line files with
  | .error _ => line.fallbackLogPath
  | .ok config => config.logPath

def perform (arguments : List String) : IO UInt32 := do
  let arguments := arguments.map bytesOf
  let program := Path.ofString (← IO.appPath).toString
  let files ← match CommandLine.read arguments with
    | .ok line => picture line
    | .error _ => pure FileSystem.empty
  let invocation : Invocation := { program := some program, arguments }
  let conclusion := invocation.perform children clock 1 files () (← currentStamp)
  removeGone files conclusion.files
  if let .ok line := CommandLine.read arguments then
    appendNew files conclusion.files (logPath line files)
  (← IO.getStdout).putStr conclusion.output
  (← IO.getStderr).putStr conclusion.errorOutput
  return UInt32.ofNat (conclusion.status.getD 1).toNat

end Decommission.Main

def main (arguments : List String) : IO UInt32 :=
  Decommission.Main.perform arguments
