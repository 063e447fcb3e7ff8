import Decommission.Text.Digits
import Decommission.Text.Extending
import Decommission.Text.Printable

/-!
# Quoted text

A diagnostic shows a foreign text between double quotes.  What would end the quotation, start an
escape or not show is escaped; an apostrophe is not.
-/

namespace Decommission.Text

/-- The escape of a character by its code point. -/
def codePointEscape (c : Char) : List Char :=
  '\\' :: 'u' :: '\x7b' :: (Nat.toDigits 16 c.toNat ++ ['\x7d'])

def quotedChar (c : Char) : List Char :=
  if c = '\x00' then ['\\', '0']
  else if c = '\t' then ['\\', 't']
  else if c = '\r' then ['\\', 'r']
  else if c = '\n' then ['\\', 'n']
  else if c = '\\' then ['\\', '\\']
  else if c = '"' then ['\\', '"']
  else if isExtending c then codePointEscape c
  else if isPrintable c then [c]
  else codePointEscape c

def quoted (text : String) : String :=
  String.ofList ('"' :: (text.toList.flatMap quotedChar ++ ['"']))

/-- A part of a byte string inside a quotation: malformed bytes are escaped one by one. -/
def quotedPart : Utf8.Part → List Char
  | .scalar c => quotedChar c
  | .malformed bytes => bytes.flatMap fun byte =>
      '\\' :: 'x' :: ((hex 2 byte.toNat).toList.map Char.toUpper)

/-- A byte string between double quotes. -/
def quotedBytes (bytes : Bytes) : String :=
  String.ofList ('"' :: ((Utf8.parts bytes).flatMap quotedPart ++ ['"']))

end Decommission.Text
