import Decommission.Path

/-!
# Removal targets

What a previous installation left behind: a link, a directory tree or a registration file.
-/

namespace Decommission

/-- What a target is taken for; this decides when it counts as present and how it is removed. -/
inductive TargetKind where
  /-- Present when the path itself is a link, whether or not that leads anywhere. -/
  | symlink
  /-- Present when the path leads to a directory. -/
  | directoryTree
  /-- Present when the path leads to a regular file. -/
  | registrationFile
  deriving DecidableEq, Repr

namespace TargetKind

def name : TargetKind → String
  | .symlink => "symlink"
  | .directoryTree => "directory_tree"
  | .registrationFile => "registration_file"

/-- All kinds, in the order in which an unknown name is answered. -/
def all : List TargetKind := [.symlink, .directoryTree, .registrationFile]

def ofName? (text : String) : Option TargetKind :=
  all.find? fun kind => kind.name = text

/-- What removing a target of this kind is called. -/
def removal : TargetKind → String
  | .symlink => "unlink symlink"
  | .directoryTree => "remove directory tree"
  | .registrationFile => "unlink file"

theorem ofName?_name (kind : TargetKind) : ofName? kind.name = some kind := by
  cases kind <;> decide

end TargetKind

structure Target where
  kind : TargetKind
  path : Path
  deriving DecidableEq, Repr

namespace Target

/-- The text that stands for the removal of a target in the run log. -/
def command (target : Target) : String :=
  target.kind.removal ++ " " ++ target.path.display

/-- The link that the previous package put among the commands. -/
def commandLink : String := "/usr/local/sbin/salt-config"

/-- The directory the previous package was installed in. -/
def installRoot : String := "/opt/salt"

/-- The entry that put the previous package on the search path. -/
def pathsEntry : String := "/etc/paths.d/salt"

def installed : List Target :=
  [⟨.symlink, .ofString commandLink⟩, ⟨.directoryTree, .ofString installRoot⟩,
    ⟨.registrationFile, .ofString pathsEntry⟩]

end Target

end Decommission
