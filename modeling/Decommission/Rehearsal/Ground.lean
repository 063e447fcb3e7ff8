import Decommission.FileSystem.Arrange
import Decommission.Rehearsal.Programs

/-!
# The ground of a rehearsal

The file system in which every rehearsal begins: an empty current directory, the directories around
it, two small programs, and a directory of process information that gives up none of its entries.
-/

namespace Decommission.Rehearsal

namespace Ground

def home : String := "/tmp/rehearsal"

/-- The directories of a system that only the system changes. -/
def closed : List String :=
  ["/usr", "/usr/bin", "/usr/sbin", "/usr/local", "/usr/local/bin", "/usr/local/sbin", "/etc",
    "/opt", "/var", "/var/log", "/root", "/home", "/dev"]

/-- The directories that anybody changes. -/
def shared : List String := ["/tmp", "/var/tmp", home]

/-- The directories of a system that are links to others. -/
def links : List (String × String) :=
  [("/bin", "usr/bin"), ("/sbin", "usr/sbin")]

/-- A file system with the directories of a system. -/
def bare : FileSystem :=
  let files := (closed ++ shared).foldl
    (fun (files : FileSystem) path => files.create (.ofString path) (.directory none))
    FileSystem.empty
  let files := links.foldl
    (fun (files : FileSystem) (path, target) =>
      files.makeLink (.ofString path) (.ofString target)) files
  { files with here := (Path.ofString home).components }

def close (files : FileSystem) : FileSystem :=
  closed.foldl
    (fun (files : FileSystem) path => files.setAccess (.ofString path) ⟨true, false, true⟩)
    { files with root := some .closed }

def withProcesses (files : FileSystem) : FileSystem :=
  let (version, files) := files.addObject ⟨bytesOf "Linux version\n", ⟨true, false, false⟩⟩
  let (image, files) := files.addObject ⟨[127, 69, 76, 70], ⟨true, false, true⟩⟩
  let files := [("/proc", Entry.directory (some .closed)),
    ("/proc/version", .file version),
    ("/proc/1", .directory (some .fixed)),
    ("/proc/1/image", .file image),
    ("/proc/1/task", .directory (some .fixed)),
    ("/proc/1/task/1", .directory (some .fixed)),
    ("/proc/1/fdinfo", .directory (some .closed)),
    ("/proc/1/fdinfo/0", .file version)].foldl
      (fun (files : FileSystem) (path, entry) => files.create (.ofString path) entry) files
  [("/proc/self", "1"), ("/proc/1/exe", "/proc/1/image"), ("/proc/1/cwd", home)].foldl
    (fun (files : FileSystem) (path, target) =>
      files.makeLink (.ofString path) (.ofString target)) files

def install (path : String) (program : Program) (state : FileSystem × Programs) :
    FileSystem × Programs :=
  let (files, programs) := state
  let path := Path.ofString path
  let files := (files.write path []).setAccess path ⟨true, true, true⟩
  match files.find? true path with
  | some (_, .file object) => (files, { programs with known := (object, program) :: programs.known })
  | _ => (files, programs)

/-- The ground and the programs on it. -/
def start : FileSystem × Programs :=
  let (files, programs) :=
    install "/bin/false" (.exits 1) (install "/bin/true" (.exits 0) (withProcesses bare, {}))
  (close files, programs)

/-- Makes the scripted control program in the current directory. -/
def installScripted (responses : List (String × List Response)) (state : FileSystem × Programs) :
    FileSystem × Programs :=
  let (files, programs) := install "launchctl" .scripted state
  (files, { programs with responses })

/-- Everything below the current directory: each path from there, with its entry. -/
def listing (files : FileSystem) : List (Bytes × Entry) :=
  files.entries.filterMap fun (place, entry) =>
    if Place.isBelow place files.here then
      some (List.intercalate [Path.slash] (place.drop files.here.length), entry)
    else none

end Ground

end Decommission.Rehearsal
