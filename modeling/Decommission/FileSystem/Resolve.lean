import Decommission.FileSystem.Basic

/-!
# Following a path

A path is followed name by name from the root or from the current directory.  A link in the way is
replaced by the path it holds; more than forty links end the walk.  The last name is followed or
not, as the caller asks.
-/

namespace Decommission.FileSystem

inductive Spot where
  | present (place : Place) (entry : Entry)
  /-- The directory is there, and the name is not in it. -/
  | vacant (parent : Place) (name : Name)
  deriving DecidableEq, Repr

/-- How far a walk comes without following a link. -/
inductive Leg where
  | arrived (spot : Spot)
  /-- A link in the directory `parent`, with the names behind it. -/
  | link (parent : Place) (target : Path) (rest : List Name)
  deriving DecidableEq, Repr

/-- The number of links that one walk may follow. -/
def linkLimit : Nat := 40

/-- Walks from a place up to the end or to the next link that has to be followed. -/
def advance (files : FileSystem) (follow : Bool) : Place → List Name → Except Errno Leg
  | place, [] =>
      match files.entry? place with
      | some entry => .ok (.arrived (.present place entry))
      | none => .error .noEntry
  | place, name :: rest =>
      match files.entry? place with
      | some (.directory _) =>
          if name = Name.dot then advance files follow place rest
          else if name = Name.dotDot then advance files follow place.dropLast rest
          else if Name.maxLength < name.length then .error .nameTooLong
          else
            match files.entry? (place ++ [name]) with
            | none => if rest.isEmpty then .ok (.arrived (.vacant place name)) else .error .noEntry
            | some (.link object target) =>
                if rest.isEmpty && !follow then
                  .ok (.arrived (.present (place ++ [name]) (.link object target)))
                else .ok (.link place target rest)
            | some _ => advance files follow (place ++ [name]) rest
      | _ => .error .notDirectory

/-- The place where a path starts, for a walk that stands at `place`. -/
def startOf (place : Place) (path : Path) : Place :=
  if path.isAbsolute then [] else place

/-- Walks to the end, following at most `links` links. -/
def walk (files : FileSystem) (follow : Bool) :
    (links : Nat) → Place → List Name → Except Errno Spot
  | links, place, steps =>
      match files.advance follow place steps with
      | .error code => .error code
      | .ok (.arrived spot) => .ok spot
      | .ok (.link parent target rest) =>
          match links with
          | 0 => .error .tooManyLinks
          | links + 1 => walk files follow links (startOf parent target) (target.steps ++ rest)

/-- A path that the system does not even look at. -/
def refused? (path : Path) : Option IoError :=
  if path.hasNul then some .nulInPath
  else if path.isEmpty then some (.os .noEntry)
  else if Path.tooLong ≤ path.bytes.length then some (.os .nameTooLong)
  else none

/-- Where a path leads; `follow` says whether a link in the last place is followed. -/
def resolve (files : FileSystem) (follow : Bool) (path : Path) : Except IoError Spot :=
  match refused? path with
  | some error => .error error
  | none =>
      (files.walk follow linkLimit (startOf files.here path) path.steps).mapError .os

def find? (files : FileSystem) (follow : Bool) (path : Path) : Option (Place × Entry) :=
  match files.resolve follow path with
  | .ok (.present place entry) => some (place, entry)
  | _ => none

/-- The directory in which the last name of a path is looked up. -/
def parentOf (files : FileSystem) (path : Path) : Except IoError Place :=
  match files.walk true linkLimit (startOf files.here path)
      (path.components.dropLast ++ [Name.dot]) with
  | .ok (.present place _) => .ok place
  | .ok (.vacant _ _) => .error (.os .noEntry)
  | .error code => .error (.os code)

end Decommission.FileSystem
