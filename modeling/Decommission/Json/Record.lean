import Decommission.Json.Skip

/-!
# Lists and records

How the elements of a list and the members of an object follow each other, and how a record is put
together from them.  A record is written as an object, its members in any order and mixed with
others, or as the list of its fields in order.

Some faults concern the record as a whole: a member that is missing or given twice.  They have no
place of their own and are reported where reading the record ends.
-/

namespace Decommission.Json

/-! ### Elements and members -/

/-- Reads an element, or the closing bracket in its place; that one is not consumed. -/
def nextElement (first : Bool) (cursor : Cursor) : Except ReadError (Option Cursor) :=
  let cursor := cursor.skipSpace
  match cursor.rest with
  | [] => cursor.failNext .endInList
  | c :: _ =>
      if c = ']' then .ok none
      else if first then .ok (some cursor)
      else if c = ',' then
        let cursor := cursor.next.skipSpace
        match cursor.rest with
        | [] => cursor.failNext .endInValue
        | ']' :: _ => cursor.failNext .trailingComma
        | _ :: _ => .ok (some cursor)
      else cursor.failNext .expectedListEnd

/-- Reads a key, or the closing bracket in its place; that one is not consumed. -/
def nextKey (first : Bool) (cursor : Cursor) : Except ReadError (Option (String × Cursor)) :=
  let cursor := cursor.skipSpace
  let key (cursor : Cursor) : Except ReadError (Option (String × Cursor)) :=
    (readQuoted cursor.next).map some
  match cursor.rest with
  | [] => cursor.failNext .endInObject
  | c :: _ =>
      if c = '\x7d' then .ok none
      else if first then
        if c = '"' then key cursor else cursor.failNext .keyNotString
      else if c = ',' then
        let cursor := cursor.next.skipSpace
        match cursor.rest with
        | [] => cursor.failNext .endInValue
        | '"' :: _ => key cursor
        | '\x7d' :: _ => cursor.failNext .trailingComma
        | _ :: _ => cursor.failNext .keyNotString
      else cursor.failNext .expectedObjectEnd

def endList (cursor : Cursor) : Except ReadError Cursor :=
  let cursor := cursor.skipSpace
  match cursor.rest with
  | [] => cursor.failNext .endInList
  | ']' :: _ => .ok cursor.next
  | ',' :: _ =>
      let cursor := cursor.next.skipSpace
      if cursor.rest.head? = some ']' then cursor.failNext .trailingComma
      else cursor.failNext .trailingCharacters
  | _ :: _ => cursor.failNext .trailingCharacters

def endObject (cursor : Cursor) : Except ReadError Cursor :=
  let cursor := cursor.skipSpace
  match cursor.rest with
  | [] => cursor.failNext .endInObject
  | '\x7d' :: _ => .ok cursor.next
  | ',' :: _ => cursor.failNext .trailingComma
  | _ :: _ => cursor.failNext .trailingCharacters

/-- Where a fault of a list as a whole is reported. -/
def afterList (cursor : Cursor) : Cursor :=
  let cursor := cursor.skipSpace
  match cursor.rest with
  | ']' :: _ => cursor.next
  | ',' :: _ => cursor.next.skipSpace
  | _ => cursor

/-- Where a fault of an object as a whole is reported. -/
def afterObject (cursor : Cursor) : Cursor :=
  let cursor := cursor.skipSpace
  match cursor.rest with
  | '\x7d' :: _ => cursor.next
  | _ => cursor

/-! ### Values of one kind -/

/-- A cursor that stands in front of a value, with the character there. -/
def atValue (cursor : Cursor) : Except ReadError (Char × Cursor) :=
  let cursor := cursor.skipSpace
  match cursor.rest with
  | [] => cursor.failNext .endInValue
  | c :: _ => .ok (c, cursor)

/-- Refuses a value that is not `expected`.  A word, a number or a string is read first, so that
the error can name it; a list or an object is not. -/
def refuse {α : Type} (expected : String) (cursor : Cursor) : Except ReadError α := do
  let found (found : Found) (cursor : Cursor) : Except ReadError α :=
    cursor.fail (.invalidType found expected)
  match cursor.rest with
  | [] => cursor.failNext .expectedValue
  | c :: _ =>
      if c = 'n' then found .null (← readWord "ull".toList cursor.next)
      else if c = 't' then found (.boolean true) (← readWord "rue".toList cursor.next)
      else if c = 'f' then found (.boolean false) (← readWord "alse".toList cursor.next)
      else if c = '-' then
        let (number, cursor) ← readNumber true cursor.next
        found number cursor
      else if (Text.digitValue? c).isSome then
        let (number, cursor) ← readNumber false cursor
        found number cursor
      else if c = '"' then
        let (text, cursor) ← readQuoted cursor.next
        found (.text text) cursor
      else if c = '[' then found .sequence cursor
      else if c = '\x7b' then found .map cursor
      else cursor.failNext .expectedValue

def readString (expected : String) (cursor : Cursor) : Except ReadError (String × Cursor) := do
  let (c, cursor) ← atValue cursor
  if c = '"' then readQuoted cursor.next else refuse expected cursor

def readBoolean (cursor : Cursor) : Except ReadError (Bool × Cursor) := do
  let (c, cursor) ← atValue cursor
  if c = 't' then return (true, ← readWord "rue".toList cursor.next)
  else if c = 'f' then return (false, ← readWord "alse".toList cursor.next)
  else refuse "a boolean" cursor

def readUnsigned (cursor : Cursor) : Except ReadError (UInt64 × Cursor) := do
  let (c, cursor) ← atValue cursor
  let number (number : Found) (cursor : Cursor) : Except ReadError (UInt64 × Cursor) :=
    match number with
    | .unsigned value => .ok (UInt64.ofNat value, cursor)
    | .negative value => cursor.fail (.invalidValue (.negative value) "u64")
    | other => cursor.fail (.invalidType other "u64")
  if c = '-' then
    let (value, cursor) ← readNumber true cursor.next
    number value cursor
  else if (Text.digitValue? c).isSome then
    let (value, cursor) ← readNumber false cursor
    number value cursor
  else refuse "u64" cursor

/-- Reads the unit value. -/
def readNull (cursor : Cursor) : Except ReadError Cursor := do
  let (c, cursor) ← atValue cursor
  if c = 'n' then readWord "ull".toList cursor.next else refuse "unit" cursor

/-- Reads elements up to the closing bracket; `seen` holds those already read, the last one
first. -/
def readElements {α : Type} (element : Cursor → Except ReadError (α × Cursor)) :
    Nat → List α → Cursor → Except ReadError (List α × Cursor)
  | 0, _, cursor => cursor.fail .endInList
  | fuel + 1, seen, cursor => do
      match ← nextElement seen.isEmpty cursor with
      | none => .ok (seen.reverse, cursor)
      | some cursor =>
          let (value, cursor) ← element cursor
          readElements element fuel (value :: seen) cursor

def readList {α : Type} (element : Cursor → Except ReadError (α × Cursor)) (cursor : Cursor) :
    Except ReadError (List α × Cursor) := do
  let (c, cursor) ← atValue cursor
  if c = '[' then
    let (values, cursor) ← readElements element cursor.fuel [] cursor.next
    return (values, ← endList cursor)
  else refuse "a sequence" cursor

/-! ### Values of any kind -/

/-- Reads members up to the closing bracket and drops them. -/
def readMembersOf {α : Type} (value : Cursor → Except ReadError (α × Cursor)) :
    Nat → Bool → Cursor → Except ReadError Cursor
  | 0, _, cursor => cursor.fail .endInObject
  | fuel + 1, first, cursor => do
      match ← nextKey first cursor with
      | none => .ok cursor
      | some (_, cursor) =>
          let (_, cursor) ← value (← readColon cursor)
          readMembersOf value fuel false cursor

/-- Reads a value of any kind and reports what kind that is.  Lists and objects may nest `depth`
deep. -/
def readAny (depth : Nat) (cursor : Cursor) : Except ReadError (Found × Cursor) := do
  let (c, cursor) ← atValue cursor
  if c = 'n' then return (.null, ← readWord "ull".toList cursor.next)
  else if c = 't' then return (.boolean true, ← readWord "rue".toList cursor.next)
  else if c = 'f' then return (.boolean false, ← readWord "alse".toList cursor.next)
  else if c = '-' then readNumber true cursor.next
  else if (Text.digitValue? c).isSome then readNumber false cursor
  else if c = '"' then
    let (text, cursor) ← readQuoted cursor.next
    return (.text text, cursor)
  else if c = '[' then
    match depth with
    | 0 => cursor.failNext .nestedTooDeep
    | depth + 1 =>
        let (_, cursor) ← readElements (readAny depth) cursor.fuel [] cursor.next
        return (.sequence, ← endList cursor)
  else if c = '\x7b' then
    match depth with
    | 0 => cursor.failNext .nestedTooDeep
    | depth + 1 =>
        let cursor ← readMembersOf (readAny depth) cursor.fuel true cursor.next
        return (.map, ← endObject cursor)
  else cursor.failNext .expectedValue

/-! ### Records -/

/-- The result of reading a part of a record: the record so far, or what is wrong with it. -/
abbrev Gathered (σ : Type) := Except Cause σ

/-- A field of a record that is collected in `σ`. -/
structure RecordField (σ : Type) where
  name : String
  isSet : σ → Bool
  /-- Reads the value of the member. -/
  member : σ → Cursor → Except ReadError (Gathered σ × Cursor)
  /-- Reads the field as an element of a list. -/
  element : σ → Cursor → Except ReadError (σ × Cursor)

/-- A field whose value is read in one way everywhere. -/
def RecordField.plain {σ α : Type} (name : String) (get : σ → Option α) (set : σ → α → σ)
    (read : Cursor → Except ReadError (α × Cursor)) : RecordField σ where
  name
  isSet record := (get record).isSome
  member record cursor := do
    let (value, cursor) ← read cursor
    return (.ok (set record value), cursor)
  element record cursor := do
    let (value, cursor) ← read cursor
    return (set record value, cursor)

/-- How a record is written. -/
structure Record (σ α : Type) where
  /-- The record in words. -/
  expected : String
  /-- The record before anything has been read. -/
  blank : σ
  fields : List (RecordField σ)
  /-- What is wrong with a list that holds only so many elements; `none` if the other fields may be
  left out. -/
  short : Nat → Option Cause
  /-- The record once everything has been read. -/
  finish : σ → Gathered α

namespace Record

variable {σ α : Type}

/-- Reads members up to the closing bracket.  A member that is given again is not read again. -/
def readMembers (fields : List (RecordField σ)) :
    Nat → Bool → σ → Cursor → Except ReadError (Gathered σ × Cursor)
  | 0, _, _, cursor => cursor.fail .endInObject
  | fuel + 1, first, record, cursor => do
      match ← nextKey first cursor with
      | none => .ok (.ok record, cursor)
      | some (key, cursor) =>
          match fields.find? (·.name = key) with
          | none => readMembers fields fuel false record (← skipValue (← readColon cursor))
          | some field =>
              if field.isSet record then .ok (.error (.duplicateField field.name), cursor)
              else
                match ← field.member record (← readColon cursor) with
                | (.ok record, cursor) => readMembers fields fuel false record cursor
                | (.error cause, cursor) => .ok (.error cause, cursor)

/-- Reads the elements of a list in the order of the fields; `count` elements have been read. -/
def readFields (short : Nat → Option Cause) :
    List (RecordField σ) → Nat → σ → Cursor → Except ReadError (Gathered σ × Cursor)
  | [], _, record, cursor => .ok (.ok record, cursor)
  | field :: fields, count, record, cursor => do
      match ← nextElement (count == 0) cursor with
      | none =>
          match short count with
          | none => .ok (.ok record, cursor)
          | some cause => .ok (.error cause, cursor)
      | some cursor =>
          let (record, cursor) ← field.element record cursor
          readFields short fields (count + 1) record cursor

def read (format : Record σ α) (cursor : Cursor) : Except ReadError (α × Cursor) := do
  let (c, cursor) ← atValue cursor
  if c = '\x7b' then
    let (part, cursor) ← readMembers format.fields cursor.fuel true format.blank cursor.next
    match part >>= format.finish with
    | .ok record => return (record, ← endObject cursor)
    | .error cause => (afterObject cursor).fail cause
  else if c = '[' then
    let (part, cursor) ← readFields format.short format.fields 0 format.blank cursor.next
    match part >>= format.finish with
    | .ok record => return (record, ← endList cursor)
    | .error cause => (afterList cursor).fail cause
  else refuse format.expected cursor

end Record

/-- Reads a document that holds one value and nothing else. -/
def readDocument {α : Type} (read : Cursor → Except ReadError (α × Cursor)) (text : String) :
    Except ReadError α := do
  let (value, cursor) ← read (.start text.toList)
  let cursor := cursor.skipSpace
  if cursor.rest.isEmpty then return value else cursor.failNext .trailingCharacters

end Decommission.Json
