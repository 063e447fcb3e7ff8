/-!
# UTF-8

Paths, arguments and file contents are byte strings; names, labels and messages are text.  This
module goes from one to the other.  `encode` writes text, `decode?` reads a well-formed byte
string, and `decodeLossy` reads any byte string by putting U+FFFD for each maximal part that
begins no scalar value.
-/

namespace Decommission

abbrev Bytes := List UInt8

namespace Utf8

def encode (text : List Char) : Bytes :=
  text.flatMap String.utf8EncodeChar

/-- What a lead byte promises: the number of bytes still owed, the least and the greatest byte
that may come next, and the bits it contributes.  A byte that leads nothing gives `none`. -/
def lead (byte : UInt8) : Option (Nat × UInt8 × UInt8 × Nat) :=
  let bits := byte.toNat
  if bits ≤ 0x7F then some (0, 0x80, 0xBF, bits)
  else if bits < 0xC2 then none
  else if bits ≤ 0xDF then some (1, 0x80, 0xBF, bits - 0xC0)
  else if bits = 0xE0 then some (2, 0xA0, 0xBF, 0)
  else if bits = 0xED then some (2, 0x80, 0x9F, 0xD)
  else if bits ≤ 0xEF then some (2, 0x80, 0xBF, bits - 0xE0)
  else if bits = 0xF0 then some (3, 0x90, 0xBF, 0)
  else if bits ≤ 0xF3 then some (3, 0x80, 0xBF, bits - 0xF0)
  else if bits = 0xF4 then some (3, 0x80, 0x8F, 4)
  else none

/-- Reads the bytes a lead byte owes.  The first of them lies between `least` and `greatest`, the
others between `80` and `BF`; at a byte out of range the reading ends in front of that byte. -/
def follow : Nat → UInt8 → UInt8 → Nat → Bytes → Option Nat × Bytes
  | 0, _, _, value, rest => (some value, rest)
  | _ + 1, _, _, _, [] => (none, [])
  | owed + 1, least, greatest, value, byte :: rest =>
      if least ≤ byte ∧ byte ≤ greatest then
        follow owed 0x80 0xBF (value * 64 + (byte.toNat - 0x80)) rest
      else (none, byte :: rest)

/-- The scalar value at the head of `byte :: rest`, or `none` where a malformed part begins, with
the bytes behind it. -/
def next (byte : UInt8) (rest : Bytes) : Option Char × Bytes :=
  match lead byte with
  | none => (none, rest)
  | some (owed, least, greatest, value) =>
      let (value, rest) := follow owed least greatest value rest
      (value.map Char.ofNat, rest)

theorem length_follow_le (owed : Nat) (least greatest : UInt8) (value : Nat) (bytes : Bytes) :
    (follow owed least greatest value bytes).2.length ≤ bytes.length := by
  induction owed generalizing least greatest value bytes with
  | zero => simp [follow]
  | succ owed ih =>
      cases bytes with
      | nil => simp [follow]
      | cons byte rest =>
          simp only [follow]
          split
          · exact Nat.le_succ_of_le (ih 0x80 0xBF _ rest)
          · exact Nat.le_refl _

/-- Reading one scalar value never lengthens what is left. -/
theorem length_next_le (byte : UInt8) (rest : Bytes) : (next byte rest).2.length ≤ rest.length := by
  unfold next
  split
  · exact Nat.le_refl _
  · exact length_follow_le _ _ _ _ rest

/-- `decode?` with the characters already read, the last of them first. -/
def decodeOnto? (seen : List Char) : Bytes → Option (List Char)
  | [] => some seen.reverse
  | byte :: rest =>
      match (next byte rest).1 with
      | none => none
      | some c => decodeOnto? (c :: seen) (next byte rest).2
termination_by bytes => bytes.length
decreasing_by
  exact Nat.lt_succ_of_le (length_next_le byte rest)

/-- The text of a well-formed byte string. -/
def decode? (bytes : Bytes) : Option (List Char) :=
  decodeOnto? [] bytes

theorem decodeOnto?_eq (seen : List Char) (bytes : Bytes) :
    decodeOnto? seen bytes = (decode? bytes).map (seen.reverse ++ ·) := by
  suffices h : ∀ n (seen : List Char) (bytes : Bytes), bytes.length ≤ n →
      decodeOnto? seen bytes = (decodeOnto? [] bytes).map (seen.reverse ++ ·) from
    h bytes.length seen bytes (Nat.le_refl _)
  intro n
  induction n with
  | zero =>
      intro seen bytes hlength
      rw [List.length_eq_zero_iff.mp (Nat.le_zero.mp hlength)]
      simp [decodeOnto?]
  | succ n ih =>
      intro seen bytes hlength
      cases bytes with
      | nil => simp [decodeOnto?]
      | cons byte rest =>
          have hrest : (next byte rest).2.length ≤ n :=
            Nat.le_trans (length_next_le byte rest) (Nat.le_of_succ_le_succ hlength)
          rw [decodeOnto?, decodeOnto?]
          cases (next byte rest).1 with
          | none => rfl
          | some c =>
              simp only
              rw [ih (c :: seen) _ hrest, ih [c] _ hrest, Option.map_map]
              congr 1
              funext text
              simp

@[simp]
theorem decode?_nil : decode? [] = some [] := by
  simp [decode?, decodeOnto?]

/-- Reading goes scalar value by scalar value. -/
theorem decode?_cons (byte : UInt8) (rest : Bytes) :
    decode? (byte :: rest) =
      (next byte rest).1.bind fun c => (decode? (next byte rest).2).map (c :: ·) := by
  rw [decode?, decodeOnto?]
  cases (next byte rest).1 with
  | none => rfl
  | some c =>
      simp only [Option.bind_some]
      rw [decodeOnto?_eq]
      rfl

/-- The character that stands for a malformed part. -/
def replacement : Char := '\uFFFD'

/-- `decodeLossy` with the characters already read, the last of them first. -/
def decodeLossyOnto (seen : List Char) : Bytes → List Char
  | [] => seen.reverse
  | byte :: rest =>
      decodeLossyOnto ((next byte rest).1.getD replacement :: seen) (next byte rest).2
termination_by bytes => bytes.length
decreasing_by
  exact Nat.lt_succ_of_le (length_next_le byte rest)

/-- The text of any byte string, each maximal malformed part replaced. -/
def decodeLossy (bytes : Bytes) : List Char :=
  decodeLossyOnto [] bytes

theorem decodeLossyOnto_eq (seen : List Char) (bytes : Bytes) :
    decodeLossyOnto seen bytes = seen.reverse ++ decodeLossy bytes := by
  suffices h : ∀ n (seen : List Char) (bytes : Bytes), bytes.length ≤ n →
      decodeLossyOnto seen bytes = seen.reverse ++ decodeLossyOnto [] bytes from
    h bytes.length seen bytes (Nat.le_refl _)
  intro n
  induction n with
  | zero =>
      intro seen bytes hlength
      rw [List.length_eq_zero_iff.mp (Nat.le_zero.mp hlength)]
      simp [decodeLossyOnto]
  | succ n ih =>
      intro seen bytes hlength
      cases bytes with
      | nil => simp [decodeLossyOnto]
      | cons byte rest =>
          have hrest : (next byte rest).2.length ≤ n :=
            Nat.le_trans (length_next_le byte rest) (Nat.le_of_succ_le_succ hlength)
          rw [decodeLossyOnto, decodeLossyOnto, ih _ _ hrest, ih [_] _ hrest]
          simp

@[simp]
theorem decodeLossy_nil : decodeLossy [] = [] := by
  simp [decodeLossy, decodeLossyOnto]

theorem decodeLossy_cons (byte : UInt8) (rest : Bytes) :
    decodeLossy (byte :: rest) =
      (next byte rest).1.getD replacement :: decodeLossy (next byte rest).2 := by
  rw [decodeLossy, decodeLossyOnto, decodeLossyOnto_eq]
  rfl

/-- One part of a byte string: a scalar value, or a maximal malformed part. -/
inductive Part where
  | scalar (c : Char)
  | malformed (bytes : Bytes)
  deriving DecidableEq, Repr

/-- The byte string cut into scalar values and maximal malformed parts. -/
def parts : Bytes → List Part
  | [] => []
  | byte :: rest =>
      let left := (next byte rest).2
      let part := match (next byte rest).1 with
        | some c => Part.scalar c
        | none => .malformed ((byte :: rest).take (rest.length + 1 - left.length))
      part :: parts left
termination_by bytes => bytes.length
decreasing_by
  exact Nat.lt_succ_of_le (length_next_le byte rest)

end Utf8

def bytesOf (text : String) : Bytes :=
  Utf8.encode text.toList

/-- A byte string as it is shown: malformed parts become U+FFFD. -/
def shown (bytes : Bytes) : String :=
  String.ofList (Utf8.decodeLossy bytes)

end Decommission
