import Decommission.Text.Utf8

/-!
# Text without styles

A message may repeat what somebody else wrote.  Shown as plain text it keeps printable characters
and white space; other control characters and the escape sequences of terminals are left out.

The sequences are recognised byte by byte.  White space inside a sequence is shown, and so is what
follows it.  A text on its own then has no sequence any more; a stream remembers the sequence and
takes it up again at the next character that is not shown.
-/

namespace Decommission.Text

/-- Where in an escape sequence a byte stands. -/
inductive Sequence where
  | outside
  /-- Behind an escape character. -/
  | escape
  /-- Behind the bytes between an escape character and the byte that ends the sequence. -/
  | announced
  | control
  /-- At the head of a device string. -/
  | device
  /-- In the parameters of a device string. -/
  | parameters
  /-- Behind the parameters of a device string. -/
  | selector
  | string
  /-- Inside a string that a bell ends as well. -/
  | command
  deriving DecidableEq, Repr

namespace Sequence

/-- The white space among the control characters. -/
def isSpacing (byte : UInt8) : Bool :=
  byte = 0x09 || byte = 0x0A || byte = 0x0C || byte = 0x0D

/-- A byte begins a character that is shown. -/
def shows (sequence : Sequence) (byte : UInt8) : Bool :=
  match sequence with
  | .outside =>
      isSpacing byte || (0x20 ≤ byte && byte ≤ 0x7E) || (0xC2 ≤ byte && byte ≤ 0xF4)
  | .escape | .announced | .control => isSpacing byte
  | .device | .parameters | .selector | .string | .command => false

/-- The sequence that a byte begins behind an escape character. -/
def introduced (byte : UInt8) : Sequence :=
  if byte = 0x5B then .control
  else if byte = 0x5D then .command
  else if byte = 0x50 then .device
  else if byte = 0x58 ∨ byte = 0x5E ∨ byte = 0x5F then .string
  else if 0x20 ≤ byte ∧ byte ≤ 0x2F then .announced
  else if 0x30 ≤ byte ∧ byte ≤ 0x7E then .outside
  else .escape

/-- Where the next byte stands. -/
def next (sequence : Sequence) (byte : UInt8) : Sequence :=
  if byte = 0x1B then .escape
  else if byte = 0x18 ∨ byte = 0x1A then .outside
  else
    match sequence with
    | .outside => .outside
    | .escape => introduced byte
    | .announced => if 0x30 ≤ byte ∧ byte ≤ 0x7E then .outside else .announced
    | .control => if 0x40 ≤ byte ∧ byte ≤ 0x7E then .outside else .control
    | .device =>
        if 0x20 ≤ byte ∧ byte ≤ 0x2F then .selector
        else if 0x30 ≤ byte ∧ byte ≤ 0x3F then .parameters
        else if 0x40 ≤ byte ∧ byte ≤ 0x7E then .string
        else .device
    | .parameters =>
        if 0x20 ≤ byte ∧ byte ≤ 0x2F then .selector
        else if 0x3C ≤ byte ∧ byte ≤ 0x7E then .string
        else .parameters
    | .selector => if 0x30 ≤ byte ∧ byte ≤ 0x7E then .string else .selector
    | .string => if byte = 0x9C then .outside else .string
    | .command => if byte = 0x07 then .outside else .command

end Sequence

/-- What a text without styles is made for. -/
inductive Medium where
  | text
  | stream
  deriving DecidableEq, Repr

/-- What is known in front of a character. -/
structure Stripping where
  sequence : Sequence := .outside
  /-- The character in front was shown, although the sequence has not ended. -/
  interrupted : Bool := false

namespace Stripping

/-- Whether a character is shown, and what is known behind it. -/
def step (medium : Medium) (known : Stripping) (c : Char) : Bool × Stripping :=
  let bytes := Utf8.encode [c]
  let here := if known.interrupted then .outside else known.sequence
  if bytes.head?.any here.shows then
    (true, if medium = .text ∨ '\x7f' < c then {} else ⟨known.sequence, true⟩)
  else (false, ⟨bytes.foldl Sequence.next known.sequence, false⟩)

/-- The characters that are shown. -/
def shown (medium : Medium) (known : Stripping) : List Char → List Char
  | [] => []
  | c :: rest =>
      let (isShown, known) := known.step medium c
      if isShown then c :: shown medium known rest else shown medium known rest

end Stripping

/-- A text without escape sequences and control characters. -/
def plain (medium : Medium) (text : String) : String :=
  String.ofList (Stripping.shown medium {} text.toList)

end Decommission.Text
