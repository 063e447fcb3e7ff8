import Decommission.Json.ReadError

/-!
# Cursor

Reading goes through a document from left to right.  A cursor holds what is left and the position
of what is behind; a reader takes a cursor and gives back its result with the cursor after it.
-/

namespace Decommission.Json

namespace Position

def after (position : Position) (c : Char) : Position :=
  if c = '\n' then ⟨position.line + 1, 0⟩ else ⟨position.line, position.column + c.utf8Size⟩

/-- The position `count` bytes further on, or at the end of the text. -/
def afterBytes (position : Position) : Nat → List Char → Position
  | 0, _ => position
  | _, [] => position
  | count + 1, c :: rest =>
      if c.utf8Size ≤ count + 1 then
        (position.after c).afterBytes (count + 1 - c.utf8Size) rest
      else ⟨position.line, position.column + (count + 1)⟩
termination_by _ text => text.length

end Position

/-- What is left of a document, and where that begins. -/
structure Cursor where
  rest : List Char
  position : Position
  deriving DecidableEq, Repr

/-- The result of a reader. -/
abbrev Reading (α : Type) := Except ReadError (α × Cursor)

namespace Cursor

def start (text : List Char) : Cursor := ⟨text, {}⟩

def next (cursor : Cursor) : Cursor :=
  match cursor.rest with
  | [] => cursor
  | c :: rest => ⟨rest, cursor.position.after c⟩

def skip (cursor : Cursor) : Nat → Cursor
  | 0 => cursor
  | count + 1 => cursor.next.skip count

/-- The position behind the next byte. -/
def peekPosition (cursor : Cursor) : Position :=
  cursor.position.afterBytes 1 cursor.rest

/-- An error about what has been read. -/
def fail {α : Type} (cursor : Cursor) (cause : Cause) : Except ReadError α :=
  .error ⟨cause, cursor.position⟩

/-- An error about the next byte. -/
def failNext {α : Type} (cursor : Cursor) (cause : Cause) : Except ReadError α :=
  .error ⟨cause, cursor.peekPosition⟩

def isSpace (c : Char) : Bool :=
  c = ' ' || c = '\n' || c = '\t' || c = '\r'

/-- What is left behind white space, and where it begins. -/
def spaceFrom (position : Position) : List Char → Cursor
  | [] => ⟨[], position⟩
  | c :: rest => if isSpace c then spaceFrom (position.after c) rest else ⟨c :: rest, position⟩

def skipSpace (cursor : Cursor) : Cursor :=
  spaceFrom cursor.position cursor.rest

/-- Enough steps for any loop that reads at least one character in two steps. -/
def fuel (cursor : Cursor) : Nat := 2 * cursor.rest.length + 2

end Cursor

end Decommission.Json
