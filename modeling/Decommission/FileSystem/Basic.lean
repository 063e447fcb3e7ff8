import Decommission.Path
import Decommission.SystemError

/-!
# File systems

A file system is a list of entries, each at its place: the names that lead to it from the root.
Everything but a directory is an object of its own.  Several entries can share one object, and one
that no entry holds any more can still be written through an open handle.

Two things are left out.  Every directory can be searched and listed: what its mode takes away is
only that entries are removed from it.  And once the current directory has been removed, no relative
path leads anywhere, not even one of dots.
-/

namespace Decommission

/-- The names that lead from the root to an entry. -/
abbrev Place := List Name

/-- Why a directory gives up none of its entries. -/
inductive Guard where
  | closed
  /-- The directory has no operation that removes an entry. -/
  | fixed
  deriving DecidableEq, Repr

abbrev ObjectId := Nat

/-- What a name in a directory leads to. -/
inductive Entry where
  | directory (guard : Option Guard)
  | file (object : ObjectId)
  | link (object : ObjectId) (target : Path)
  | socket (object : ObjectId)
  deriving DecidableEq, Repr

structure Access where
  readable : Bool := true
  writable : Bool := true
  executable : Bool := false
  deriving DecidableEq, Repr

/-- The access that a mode gives the owner. -/
def Access.ofMode (mode : Nat) : Access :=
  ⟨mode.testBit 8, mode.testBit 7, mode.testBit 6⟩

/-- A file apart from its names; a link and a socket have no content. -/
structure FileObject where
  content : Bytes := []
  access : Access := {}
  deriving DecidableEq, Repr

/-- The entries below the root, the file objects, the current directory, and the guard of the
root. -/
structure FileSystem where
  entries : List (Place × Entry) := []
  objects : List FileObject := []
  here : Place := []
  root : Option Guard := none
  deriving DecidableEq, Repr

namespace Entry

def isDirectory : Entry → Bool
  | .directory _ => true
  | _ => false

def isLink : Entry → Bool
  | .link _ _ => true
  | _ => false

def isFile : Entry → Bool
  | .file _ => true
  | _ => false

def object? : Entry → Option ObjectId
  | .directory _ => none
  | .file object | .link object _ | .socket object => some object

end Entry

/-- One place lies strictly below another. -/
def Place.isBelow (place above : Place) : Bool :=
  above.length < place.length && place.take above.length = above

namespace FileSystem

def empty : FileSystem := {}

/-- The entry at a place; the root is a directory. -/
def entry? (files : FileSystem) (place : Place) : Option Entry :=
  if place = [] then some (.directory files.root) else files.entries.lookup place

/-- The guard of the directory at a place. -/
def guard? (files : FileSystem) (place : Place) : Option Guard :=
  match files.entry? place with
  | some (.directory guard) => guard
  | _ => none

def object? (files : FileSystem) (object : ObjectId) : Option FileObject :=
  files.objects[object]?

def content (files : FileSystem) (object : ObjectId) : Bytes :=
  ((files.object? object).map (·.content)).getD []

/-- The places below a directory, the youngest first. -/
def below (files : FileSystem) (place : Place) : List Place :=
  ((files.entries.map Prod.fst).filter (Place.isBelow · place)).reverse

def drop (files : FileSystem) (place : Place) : FileSystem :=
  { files with entries := files.entries.filter fun entry => entry.1 ≠ place }

def put (files : FileSystem) (place : Place) (entry : Entry) : FileSystem :=
  let files := files.drop place
  { files with entries := files.entries ++ [(place, entry)] }

def addObject (files : FileSystem) (object : FileObject) : ObjectId × FileSystem :=
  (files.objects.length, { files with objects := files.objects ++ [object] })

def modifyObject (files : FileSystem) (object : ObjectId) (f : FileObject → FileObject) :
    FileSystem :=
  { files with objects := files.objects.modify object f }

/-- Writes bytes behind the content of a file object. -/
def append (files : FileSystem) (object : ObjectId) (bytes : Bytes) : FileSystem :=
  files.modifyObject object fun file => { file with content := file.content ++ bytes }

end FileSystem

end Decommission
