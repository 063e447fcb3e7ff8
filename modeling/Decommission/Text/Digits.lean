import Decommission.Text.Utf8

/-!
# Digits

Writing numbers in base ten and sixteen, and reading a number that an argument gives.
-/

namespace Decommission.Text

def digitValue? (c : Char) : Option Nat :=
  if '0' ≤ c ∧ c ≤ '9' then some (c.toNat - '0'.toNat) else none

/-- The value of a hexadecimal digit in either case. -/
def hexValue? (c : Char) : Option Nat :=
  if '0' ≤ c ∧ c ≤ '9' then some (c.toNat - '0'.toNat)
  else if 'a' ≤ c ∧ c ≤ 'f' then some (c.toNat - 'a'.toNat + 10)
  else if 'A' ≤ c ∧ c ≤ 'F' then some (c.toNat - 'A'.toNat + 10)
  else none

/-- Base ten, padded with zeros to at least `width` digits. -/
def decimal (width n : Nat) : String :=
  let digits := Nat.toDigits 10 n
  String.ofList (List.replicate (width - digits.length) '0' ++ digits)

/-- Base sixteen in lower case, padded with zeros to at least `width` digits. -/
def hex (width n : Nat) : String :=
  let digits := Nat.toDigits 16 n
  String.ofList (List.replicate (width - digits.length) '0' ++ digits)

/-- Why a text is not a 64-bit number. -/
inductive NumberFault where
  | empty
  | invalidDigit
  | tooLarge
  deriving DecidableEq, Repr

def NumberFault.message : NumberFault → String
  | .empty => "cannot parse integer from empty string"
  | .invalidDigit => "invalid digit found in string"
  | .tooLarge => "number too large to fit in target type"

/-- Reads digits behind those that make up `value`.  The first character that is no digit, or the
first digit that leaves the range, decides the fault. -/
def readDigits (value : Nat) : List Char → Except NumberFault UInt64
  | [] => .ok (UInt64.ofNat value)
  | c :: rest =>
      match digitValue? c with
      | none => .error .invalidDigit
      | some digit =>
          if value * 10 + digit < UInt64.size then readDigits (value * 10 + digit) rest
          else .error .tooLarge

/-- Reads a 64-bit number: decimal digits, with at most one plus sign in front of them. -/
def readUInt64 (text : String) : Except NumberFault UInt64 :=
  match text.toList with
  | [] => .error .empty
  | ['+'] => .error .invalidDigit
  | '+' :: rest => readDigits 0 rest
  | digits => readDigits 0 digits

end Decommission.Text
