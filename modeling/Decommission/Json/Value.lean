import Decommission.Text.Digits

/-!
# Values and their written form

The documents this program writes.  A value has one compact form, without white space, and one
spread over lines.
-/

namespace Decommission.Json

inductive Value where
  | boolean (value : Bool)
  | unsigned (value : UInt64)
  | text (value : String)
  | list (elements : List Value)
  | object (members : List (String × Value))
  deriving Repr

namespace Value

/-- A character of a string as it is written. -/
def writtenChar (c : Char) : List Char :=
  if c = '"' then ['\\', '"']
  else if c = '\\' then ['\\', '\\']
  else if c = '\x08' then ['\\', 'b']
  else if c = '\x0c' then ['\\', 'f']
  else if c = '\n' then ['\\', 'n']
  else if c = '\r' then ['\\', 'r']
  else if c = '\t' then ['\\', 't']
  else if c.toNat < 0x20 then '\\' :: 'u' :: (Text.hex 4 c.toNat).toList
  else [c]

def writtenText (text : String) : List Char :=
  '"' :: (text.toList.flatMap writtenChar ++ ['"'])

/-- The form without white space. -/
def compact : Value → List Char
  | .boolean true => "true".toList
  | .boolean false => "false".toList
  | .unsigned value => Nat.toDigits 10 value.toNat
  | .text value => writtenText value
  | .list elements => '[' :: (List.intercalate [','] (compactList elements) ++ [']'])
  | .object members => '\x7b' :: (List.intercalate [','] (compactMembers members) ++ ['\x7d'])
where
  compactList : List Value → List (List Char)
    | [] => []
    | element :: rest => element.compact :: compactList rest
  compactMembers : List (String × Value) → List (List Char)
    | [] => []
    | (key, value) :: rest => (writtenText key ++ ':' :: value.compact) :: compactMembers rest

/-- A line break with the indentation of `depth` open lists and objects. -/
def lineBreak (depth : Nat) : List Char :=
  '\n' :: List.replicate (2 * depth) ' '

/-- Parts between brackets, each on lines of its own; brackets around nothing stay together. -/
def spreadParts (opening closing : Char) (depth : Nat) : List (List Char) → List Char
  | [] => [opening, closing]
  | parts =>
      opening :: (lineBreak (depth + 1) ++
        List.intercalate (',' :: lineBreak (depth + 1)) parts ++ lineBreak depth ++ [closing])

/-- The form with one element or member to a line. -/
def spread (depth : Nat) : Value → List Char
  | .list elements => spreadParts '[' ']' depth (spreadList elements)
  | .object members => spreadParts '\x7b' '\x7d' depth (spreadMembers members)
  | value => value.compact
where
  spreadList : List Value → List (List Char)
    | [] => []
    | element :: rest => element.spread (depth + 1) :: spreadList rest
  spreadMembers : List (String × Value) → List (List Char)
    | [] => []
    | (key, value) :: rest =>
        (writtenText key ++ ':' :: ' ' :: value.spread (depth + 1)) :: spreadMembers rest

def render (value : Value) : String := String.ofList value.compact

end Value

end Decommission.Json
