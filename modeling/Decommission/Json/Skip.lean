import Decommission.Json.Token

/-!
# Passing over a value

The value of a member that nobody asked for is checked for its form and dropped.  The walk keeps the
lists and objects that are still open in a stack, so that there is no limit on how deep they nest.
-/

namespace Decommission.Json

/-- A list or an object that is still open. -/
inductive Enclosing where
  | list
  | object
  deriving DecidableEq, Repr

namespace Enclosing

def closing : Enclosing → Char
  | .list => ']'
  | .object => '\x7d'

/-- What is wrong when something other than a comma or the closing bracket follows an element. -/
def unfinished : Enclosing → Cause
  | .list => .expectedListEnd
  | .object => .expectedObjectEnd

/-- What is wrong when the document ends inside. -/
def ended : Enclosing → Cause
  | .list => .endInList
  | .object => .endInObject

end Enclosing

def readColon (cursor : Cursor) : Except ReadError Cursor :=
  let cursor := cursor.skipSpace
  match cursor.rest with
  | ':' :: _ => .ok cursor.next
  | [] => cursor.failNext .endInObject
  | _ :: _ => cursor.failNext .expectedColon

/-- Passes over a key and its colon. -/
def skipKey (cursor : Cursor) : Except ReadError Cursor := do
  let cursor := cursor.skipSpace
  match cursor.rest with
  | '"' :: _ => readColon (← skipQuoted cursor.next)
  | [] => cursor.failNext .endInObject
  | _ :: _ => cursor.failNext .keyNotString

/-- What is behind the head of a value: either its end, or the inside of a list or an object. -/
inductive Head where
  | whole (cursor : Cursor)
  | opened (enclosing : Enclosing) (cursor : Cursor)
  deriving Repr

/-- Passes over a word, a number or a string, or over an opening bracket. -/
def skipHead (cursor : Cursor) : Except ReadError Head :=
  let cursor := cursor.skipSpace
  match cursor.rest with
  | [] => cursor.failNext .endInValue
  | c :: _ =>
      if c = 'n' then (readWord "ull".toList cursor.next).map .whole
      else if c = 't' then (readWord "rue".toList cursor.next).map .whole
      else if c = 'f' then (readWord "alse".toList cursor.next).map .whole
      else if c = '-' then (skipNumber cursor.next).map .whole
      else if (Text.digitValue? c).isSome then (skipNumber cursor).map .whole
      else if c = '"' then (skipQuoted cursor.next).map .whole
      else if c = '[' then .ok (.opened .list cursor.next)
      else if c = '\x7b' then .ok (.opened .object cursor.next)
      else cursor.failNext .expectedValue

/-- Where the walk stands. -/
inductive Awaiting where
  | value
  | firstOrEnd
  | moreOrEnd
  deriving DecidableEq, Repr

/-- Goes on until the last of the open lists and objects is closed. -/
def skipFrom : Nat → Awaiting → List Enclosing → Cursor → Except ReadError Cursor
  | 0, _, _, cursor => cursor.fail .endInValue
  | fuel + 1, .value, stack, cursor => do
      match ← skipHead cursor with
      | .whole cursor => skipFrom fuel .moreOrEnd stack cursor
      | .opened enclosing cursor => skipFrom fuel .firstOrEnd (enclosing :: stack) cursor
  | _ + 1, _, [], cursor => .ok cursor
  | fuel + 1, awaiting, enclosing :: stack, cursor => do
      let cursor := cursor.skipSpace
      let element (cursor : Cursor) : Except ReadError Cursor := do
        let cursor ← if enclosing = .object then skipKey cursor else .ok cursor
        skipFrom fuel .value (enclosing :: stack) cursor
      match cursor.rest with
      | [] => cursor.failNext enclosing.ended
      | c :: _ =>
          if c = ',' ∧ awaiting = .moreOrEnd then element cursor.next
          else if c = enclosing.closing then skipFrom fuel .moreOrEnd stack cursor.next
          else if awaiting = .moreOrEnd then cursor.failNext enclosing.unfinished
          else element cursor

def skipValue (cursor : Cursor) : Except ReadError Cursor :=
  skipFrom cursor.fuel .value [] cursor

end Decommission.Json
