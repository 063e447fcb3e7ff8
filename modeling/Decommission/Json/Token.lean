import Decommission.Decimal.Binary64
import Decommission.Decimal.Shortest
import Decommission.Json.Cursor

/-!
# Tokens

Words, strings and numbers.  A string is read in full, so that surrogates have to come in pairs; a
string whose value is of no interest is only passed over, and there they need not.
-/

namespace Decommission.Json

def readWord : List Char → Cursor → Except ReadError Cursor
  | [], cursor => .ok cursor
  | expected :: word, cursor =>
      match cursor.rest with
      | [] => cursor.fail .endInValue
      | c :: _ => if c = expected then readWord word cursor.next else cursor.failNext .expectedWord

/-! ### Strings -/

/-- An escape without four hexadecimal digits: four bytes that are something else, or fewer. -/
def malformedHex (cursor : Cursor) : ReadError :=
  let bytes := (cursor.rest.take 4).foldr (fun c count => c.utf8Size + count) 0
  ⟨if 4 ≤ bytes then .invalidEscape else .endInString, cursor.position.afterBytes 4 cursor.rest⟩

def readHex (cursor : Cursor) : Reading Nat :=
  match cursor.rest with
  | a :: b :: c :: d :: _ =>
      match Text.hexValue? a, Text.hexValue? b, Text.hexValue? c, Text.hexValue? d with
      | some a, some b, some c, some d => .ok (((a * 16 + b) * 16 + c) * 16 + d, cursor.skip 4)
      | _, _, _, _ => .error (malformedHex cursor)
  | _ => .error (malformedHex cursor)

/-- The first half of a surrogate pair. -/
def isLeading (unit : Nat) : Bool := 0xD800 ≤ unit && unit ≤ 0xDBFF

/-- The second half of a surrogate pair. -/
def isTrailing (unit : Nat) : Bool := 0xDC00 ≤ unit && unit ≤ 0xDFFF

/-- Reads the given character of a surrogate pair's second escape. -/
def readPairMark (mark : Char) (cursor : Cursor) : Except ReadError Cursor :=
  match cursor.rest with
  | [] => cursor.fail .endInString
  | c :: _ => if c = mark then .ok cursor.next else cursor.failNext .unfinishedSurrogate

/-- The character of an escape by code unit, behind its letter. -/
def readCodeUnits (cursor : Cursor) : Except ReadError (Char × Cursor) := do
  let (unit, cursor) ← readHex cursor
  if isTrailing unit then cursor.fail .loneSurrogate
  else if isLeading unit then
    let cursor ← readPairMark '\\' cursor
    let cursor ← readPairMark 'u' cursor
    let (second, cursor) ← readHex cursor
    if isTrailing second then
      .ok (Char.ofNat ((unit - 0xD800) * 0x400 + (second - 0xDC00) + 0x10000), cursor)
    else cursor.fail .loneSurrogate
  else .ok (Char.ofNat unit, cursor)

/-- What an escape of one letter stands for. -/
def escapeLetter? : Char → Option Char
  | '"' => some '"'
  | '\\' => some '\\'
  | '/' => some '/'
  | 'b' => some '\x08'
  | 'f' => some '\x0c'
  | 'n' => some '\n'
  | 'r' => some '\r'
  | 't' => some '\t'
  | _ => none

/-- The character of an escape, behind its backslash. -/
def readEscape (cursor : Cursor) : Reading Char :=
  match cursor.rest with
  | [] => cursor.fail .endInString
  | c :: _ =>
      match escapeLetter? c with
      | some value => .ok (value, cursor.next)
      | none => if c = 'u' then readCodeUnits cursor.next else cursor.failNext .invalidEscape

/-- Characters that a string can only hold escaped. -/
def isControl (c : Char) : Bool := c.toNat < 0x20

/-- Reads the characters up to the closing quote; `seen` holds those already read, the last one
first. -/
def readCharacters : Nat → List Char → Cursor → Except ReadError (String × Cursor)
  | 0, _, cursor => cursor.fail .endInString
  | fuel + 1, seen, cursor =>
      match cursor.rest with
      | [] => cursor.fail .endInString
      | c :: _ =>
          if c = '"' then .ok (String.ofList seen.reverse, cursor.next)
          else if c = '\\' then do
            let (value, cursor) ← readEscape cursor.next
            readCharacters fuel (value :: seen) cursor
          else if isControl c then cursor.failNext .controlCharacter
          else readCharacters fuel (c :: seen) cursor.next

/-- Reads a string behind its opening quote. -/
def readQuoted (cursor : Cursor) : Reading String :=
  readCharacters cursor.fuel [] cursor

def skipEscape (cursor : Cursor) : Except ReadError Cursor :=
  match cursor.rest with
  | [] => cursor.fail .endInString
  | c :: _ =>
      if (escapeLetter? c).isSome then .ok cursor.next
      else if c = 'u' then (readHex cursor.next).map Prod.snd
      else cursor.failNext .invalidEscape

def skipCharacters : Nat → Cursor → Except ReadError Cursor
  | 0, cursor => cursor.fail .endInString
  | fuel + 1, cursor =>
      match cursor.rest with
      | [] => cursor.fail .endInString
      | c :: _ =>
          if c = '"' then .ok cursor.next
          else if c = '\\' then do
            let cursor ← skipEscape cursor.next
            skipCharacters fuel cursor
          else if isControl c then cursor.fail .controlCharacter
          else skipCharacters fuel cursor.next

def skipQuoted (cursor : Cursor) : Except ReadError Cursor :=
  skipCharacters cursor.fuel cursor

/-! ### Numbers -/

/-- The decimal digits at the head of a text. -/
def leadingDigits : List Char → List Nat
  | [] => []
  | c :: rest =>
      match Text.digitValue? c with
      | some digit => digit :: leadingDigits rest
      | none => []

/-- The significand that digits lead to from `value`, as long as it stays below 2^64, and the
digits that did not go in. -/
def significand (value : Nat) : List Nat → Nat × List Nat
  | [] => (value, [])
  | digit :: rest =>
      if value * 10 + digit < UInt64.size then significand (value * 10 + digit) rest
      else (value, digit :: rest)

inductive Exponent where
  | within (value : Nat)
  /-- The digit at this place leads out of the range of 32 bits. -/
  | beyond (place : Nat)
  deriving DecidableEq, Repr

/-- The first exponent out of the range of 32 bits. -/
def exponentLimit : Nat := 0x80000000

def exponentValue (value place : Nat) : List Nat → Exponent
  | [] => .within value
  | digit :: rest =>
      if value * 10 + digit < exponentLimit then exponentValue (value * 10 + digit) (place + 1) rest
      else .beyond place

/-- The significand and the power of ten in front of an exponent part. -/
structure Mantissa where
  negative : Bool
  significand : Nat
  power : Int
  /-- Nothing but digits in range so far. -/
  whole : Bool
  deriving DecidableEq, Repr

/-- The number of a mantissa with a power of ten. -/
def Mantissa.real (mantissa : Mantissa) (power : Int) (cursor : Cursor) : Reading Found :=
  match Decimal.toBinary64? mantissa.negative (UInt64.ofNat mantissa.significand) power with
  | some value => .ok (.real (Decimal.text value), cursor)
  | none => cursor.fail .numberOutOfRange

/-- The least integer of 64 bits, without its sign. -/
def leastInteger : Nat := 0x8000000000000000

/-- The number of a mantissa on its own.  A negative zero and an integer below -2^63 are no
integers. -/
def Mantissa.alone (mantissa : Mantissa) (cursor : Cursor) : Reading Found :=
  if mantissa.whole then
    if !mantissa.negative then .ok (.unsigned mantissa.significand, cursor)
    else if 0 < mantissa.significand ∧ mantissa.significand ≤ leastInteger then
      .ok (.negative (-(mantissa.significand : Int)), cursor)
    else mantissa.real 0 cursor
  else mantissa.real mantissa.power cursor

/-- Reads an exponent part behind its letter. -/
def readExponent (mantissa : Mantissa) (cursor : Cursor) : Reading Found :=
  let (negative, cursor) := match cursor.rest with
    | '+' :: _ => (false, cursor.next)
    | '-' :: _ => (true, cursor.next)
    | _ => (false, cursor)
  let digits := leadingDigits cursor.rest
  if digits.isEmpty then
    if cursor.rest.isEmpty then cursor.fail .endInValue else cursor.failNext .invalidNumber
  else
    match exponentValue 0 0 digits with
    | .within value =>
        mantissa.real (if negative then mantissa.power - value else mantissa.power + value)
          (cursor.skip digits.length)
    | .beyond place =>
        if mantissa.significand ≠ 0 ∧ !negative then
          (cursor.skip (place + 1)).fail .numberOutOfRange
        else .ok (.real (if mantissa.negative then "-0.0" else "0.0"), cursor.skip digits.length)

def readAfterFraction (mantissa : Mantissa) (cursor : Cursor) : Reading Found :=
  match cursor.rest with
  | 'e' :: _ | 'E' :: _ => readExponent mantissa cursor.next
  | _ => mantissa.alone cursor

def readAfterInteger (mantissa : Mantissa) (cursor : Cursor) : Reading Found :=
  match cursor.rest with
  | '.' :: _ =>
      let cursor := cursor.next
      let digits := leadingDigits cursor.rest
      if digits.isEmpty then
        if cursor.rest.isEmpty then cursor.fail .endInValue else cursor.failNext .invalidNumber
      else
        let (value, left) := significand mantissa.significand digits
        let power := mantissa.power - (digits.length - left.length : Nat)
        readAfterFraction ⟨mantissa.negative, value, power, false⟩ (cursor.skip digits.length)
  | _ => readAfterFraction mantissa cursor

/-- Reads a number behind its sign. -/
def readNumber (negative : Bool) (cursor : Cursor) : Reading Found :=
  match leadingDigits cursor.rest with
  | [] => if cursor.rest.isEmpty then cursor.fail .endInValue else cursor.failNext .invalidNumber
  | 0 :: _ :: _ => cursor.next.failNext .invalidNumber
  | digits =>
      let (value, left) := significand 0 digits
      readAfterInteger ⟨negative, value, left.length, left.isEmpty⟩ (cursor.skip digits.length)

def skipExponent (cursor : Cursor) : Except ReadError Cursor :=
  let cursor := match cursor.rest with
    | '+' :: _ | '-' :: _ => cursor.next
    | _ => cursor
  let digits := leadingDigits cursor.rest
  if digits.isEmpty then cursor.failNext .invalidNumber else .ok (cursor.skip digits.length)

def skipAfterFraction (cursor : Cursor) : Except ReadError Cursor :=
  match cursor.rest with
  | 'e' :: _ | 'E' :: _ => skipExponent cursor.next
  | _ => .ok cursor

/-- Passes over a number behind its sign. -/
def skipNumber (cursor : Cursor) : Except ReadError Cursor :=
  match leadingDigits cursor.rest with
  | [] => cursor.failNext .invalidNumber
  | 0 :: _ :: _ => cursor.next.failNext .invalidNumber
  | digits =>
      let cursor := cursor.skip digits.length
      match cursor.rest with
      | '.' :: _ =>
          let cursor := cursor.next
          let digits := leadingDigits cursor.rest
          if digits.isEmpty then cursor.failNext .invalidNumber
          else skipAfterFraction (cursor.skip digits.length)
      | _ => skipAfterFraction cursor

end Decommission.Json
