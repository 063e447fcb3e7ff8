import Decommission.Text.Utf8

/-!
# Paths

A path is any byte string.  It names its components from left to right: the parts between slashes,
the empty ones left out.
-/

namespace Decommission

/-- The name of a directory entry. -/
abbrev Name := Bytes

namespace Name

def dot : Name := [46]

def dotDot : Name := [46, 46]

/-- The longest name a directory can hold. -/
def maxLength : Nat := 255

end Name

structure Path where
  bytes : Bytes
  deriving DecidableEq, Repr, Inhabited

namespace Path

def slash : UInt8 := 47

/-- The first length of a path that the system refuses. -/
def tooLong : Nat := 4096

def ofString (text : String) : Path := ⟨bytesOf text⟩

def display (path : Path) : String := shown path.bytes

/-- The path as text, where it is text. -/
def text? (path : Path) : Option String :=
  (Utf8.decode? path.bytes).map String.ofList

def isEmpty (path : Path) : Bool := path.bytes.isEmpty

/-- An absolute path starts from the root. -/
def isAbsolute (path : Path) : Bool := path.bytes.head? == some slash

/-- A path that ends with a slash asks for a directory. -/
def endsWithSlash (path : Path) : Bool := path.bytes.getLast? == some slash

def hasNul (path : Path) : Bool := path.bytes.contains 0

/-- The parts between slashes, empty ones included; there is always one more than slashes. -/
def parts : Bytes → List Name
  | [] => [[]]
  | byte :: rest =>
      if byte = slash then [] :: parts rest else (parts rest).modifyHead (byte :: ·)

def components (path : Path) : List Name :=
  (parts path.bytes).filter fun part => !part.isEmpty

/-- The components as a walk takes them: behind a closing slash the walk still has to stand in a
directory, as it has for a closing dot. -/
def steps (path : Path) : List Name :=
  if path.endsWithSlash then path.components ++ [Name.dot] else path.components

/-- The last component once closing slashes and dots are dropped, unless it goes upwards. -/
def fileName? (path : Path) : Option Name :=
  match (path.components.filter (· ≠ Name.dot)).getLast? with
  | none => none
  | some name => if name = Name.dotDot then none else some name

/-- A path with one more component. -/
def join (path : Path) (name : Name) : Path :=
  ⟨path.bytes ++ slash :: name⟩

end Path

end Decommission
