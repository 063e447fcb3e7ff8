import Decommission.Text.Utf8

/-!
# Blank characters

Names, labels and error output are trimmed of white space in the sense of Unicode: the 25
characters with the property `White_Space`.  U+200B and U+FEFF are not among them.
-/

namespace Decommission.Text

/-- The characters with the Unicode property `White_Space`. -/
def blanks : List Char :=
  ['\t', '\n', '\x0b', '\x0c', '\r', ' ', '\u0085', '\u00A0', '\u1680', '\u2000', '\u2001',
    '\u2002', '\u2003', '\u2004', '\u2005', '\u2006', '\u2007', '\u2008', '\u2009', '\u200A',
    '\u2028', '\u2029', '\u202F', '\u205F', '\u3000']

def isBlankChar (c : Char) : Bool :=
  blanks.contains c

/-- A text of white space only, the empty one included. -/
def isBlank (text : String) : Bool :=
  text.toList.all isBlankChar

/-- A text without the white space at its two ends. -/
def trim (text : String) : String :=
  let front := text.toList.dropWhile isBlankChar
  String.ofList (front.reverse.dropWhile isBlankChar).reverse

end Decommission.Text
