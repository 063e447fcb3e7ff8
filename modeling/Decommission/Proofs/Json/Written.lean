import Decommission.Json.Skip

/-!
# Written values

What a document says, apart from how it is written, is a tree.  The relations below are the grammar:
a text begins with something, and this is what is left behind it.  White space may stand between any
two tokens, a character of a string may be escaped in several ways, and a number is as long as it
can be.
-/

namespace Decommission.Json

/-- A value as it is read.  Of numbers only the natural ones are told apart; a string in which a
surrogate stands alone is no text. -/
inductive Tree where
  | null
  | boolean (value : Bool)
  | number (natural : Option Nat)
  | text (content : Option String)
  | list (elements : List Tree)
  | object (members : List (Option String × Tree))

/-- White space. -/
inductive Gap : List Char → List Char → Prop where
  | nil {text} : Gap text text
  | cons {c text rest} (hspace : Cursor.isSpace c = true) (hgap : Gap text rest) :
      Gap (c :: text) rest

/-! ## Strings -/

/-- The four digits of a code unit. -/
inductive CodeUnit : List Char → Nat → List Char → Prop where
  | digits {a b c d : Char} {p q r s : Nat} {rest : List Char} (ha : Text.hexValue? a = some p)
      (hb : Text.hexValue? b = some q) (hc : Text.hexValue? c = some r)
      (hd : Text.hexValue? d = some s) :
      CodeUnit (a :: b :: c :: d :: rest) (((p * 16 + q) * 16 + r) * 16 + s) rest

/-- What follows a backslash, and the character that it stands for. -/
inductive Escape : List Char → Char → List Char → Prop where
  | letter {letter c text} (hletter : escapeLetter? letter = some c) :
      Escape (letter :: text) c text
  | unit {text unit rest} (hunit : CodeUnit text unit rest) (hleading : isLeading unit = false)
      (htrailing : isTrailing unit = false) : Escape ('u' :: text) (Char.ofNat unit) rest
  | pair {text first second middle rest}
      (hfirst : CodeUnit text first ('\\' :: 'u' :: middle)) (hleading : isLeading first = true)
      (hsecond : CodeUnit middle second rest) (htrailing : isTrailing second = true) :
      Escape ('u' :: text)
        (Char.ofNat ((first - 0xD800) * 0x400 + (second - 0xDC00) + 0x10000)) rest

/-- The characters of a string and its closing quote. -/
inductive Characters : List Char → List Char → List Char → Prop where
  | nil {rest} : Characters ('"' :: rest) [] rest
  | plain {c text value rest} (hquote : c ≠ '"') (hbackslash : c ≠ '\\')
      (hcontrol : isControl c = false) (hmore : Characters text value rest) :
      Characters (c :: text) (c :: value) rest
  | escaped {c text more value rest} (hescape : Escape text c more)
      (hmore : Characters more value rest) : Characters ('\\' :: text) (c :: value) rest

/-- The same without a look at surrogates. -/
inductive Passable : List Char → List Char → Prop where
  | nil {rest} : Passable ('"' :: rest) rest
  | plain {c text rest} (hquote : c ≠ '"') (hbackslash : c ≠ '\\') (hcontrol : isControl c = false)
      (hmore : Passable text rest) : Passable (c :: text) rest
  | letter {letter c text rest} (hletter : escapeLetter? letter = some c)
      (hmore : Passable text rest) : Passable ('\\' :: letter :: text) rest
  | unit {text unit more rest} (hunit : CodeUnit text unit more) (hmore : Passable more rest) :
      Passable ('\\' :: 'u' :: text) rest

/-- A string. -/
inductive Quoted : List Char → Option String → List Char → Prop where
  | whole {text value rest} (hcharacters : Characters text value rest) :
      Quoted ('"' :: text) (some (String.ofList value)) rest
  | broken {text rest} (hpassable : Passable text rest)
      (hbroken : ∀ value rest, ¬Characters text value rest) : Quoted ('"' :: text) none rest

/-! ## Numbers -/

inductive Digits : List Char → List Nat → List Char → Prop where
  | nil {text} : Digits text [] text
  | cons {c digit text digits rest} (hdigit : Text.digitValue? c = some digit)
      (hmore : Digits text digits rest) : Digits (c :: text) (digit :: digits) rest

/-- The digits of an integer.  Only zero begins with a zero. -/
def IsWhole (digits : List Nat) : Prop :=
  digits ≠ [] ∧ (digits.head? = some 0 → digits = [0])

def valueOf (digits : List Nat) : Nat :=
  digits.foldl (fun value digit => value * 10 + digit) 0

/-- A point with digits behind it, or nothing. -/
inductive Fraction : List Char → Bool → List Char → Prop where
  | absent {text} : Fraction text false text
  | present {text digits rest} (hdigits : Digits text digits rest) (hsome : digits ≠ []) :
      Fraction ('.' :: text) true rest

inductive Sign : List Char → List Char → Prop where
  | absent {text} : Sign text text
  | plus {text} : Sign ('+' :: text) text
  | minus {text} : Sign ('-' :: text) text

/-- A power of ten, or nothing. -/
inductive Power : List Char → Bool → List Char → Prop where
  | absent {text} : Power text false text
  | present {c text signed digits rest} (hletter : c = 'e' ∨ c = 'E') (hsign : Sign text signed)
      (hdigits : Digits signed digits rest) (hsome : digits ≠ []) : Power (c :: text) true rest

/-- A number without a sign, whether it is written with its digits alone. -/
inductive Magnitude : List Char → List Nat → Bool → List Char → Prop where
  | parts {text digits fraction hasFraction power hasPower rest}
      (hdigits : Digits text digits fraction) (hwhole : IsWhole digits)
      (hfraction : Fraction fraction hasFraction power) (hpower : Power power hasPower rest) :
      Magnitude text digits (!hasFraction && !hasPower) rest

inductive Number : List Char → Option Nat → List Char → Prop where
  | natural {text digits rest} (hmagnitude : Magnitude text digits true rest) :
      Number text (some (valueOf digits)) rest
  | real {text digits rest} (hmagnitude : Magnitude text digits false rest) :
      Number text none rest
  | negative {text digits plain rest} (hmagnitude : Magnitude text digits plain rest) :
      Number ('-' :: text) none rest

/-! ## Values -/

/-- What can follow a value. -/
def Follows (rest : List Char) : Prop :=
  ∀ c ∈ rest.head?, Cursor.isSpace c = true ∨ c = ',' ∨ c = ']' ∨ c = '\x7d'

/-- What stands in front of an element or a member: a comma, if it is not the first one. -/
inductive Lead : Bool → List Char → List Char → Prop where
  | first {text rest} (hgap : Gap text rest) : Lead true text rest
  | comma {text more rest} (hgap : Gap text (',' :: more)) (hmore : Gap more rest) :
      Lead false text rest

/-- Something made of values.  Elements and members are followed by their closing bracket. -/
inductive Phrase where
  | value (tree : Tree)
  | elements (first : Bool) (trees : List Tree)
  | members (first : Bool) (members : List (Option String × Tree))

/-- A text begins with a phrase. -/
inductive Written : List Char → Phrase → List Char → Prop where
  | null {rest} : Written ('n' :: 'u' :: 'l' :: 'l' :: rest) (.value .null) rest
  | yes {rest} : Written ('t' :: 'r' :: 'u' :: 'e' :: rest) (.value (.boolean true)) rest
  | no {rest} : Written ('f' :: 'a' :: 'l' :: 's' :: 'e' :: rest) (.value (.boolean false)) rest
  | number {text natural rest} (hnumber : Number text natural rest) (hfollows : Follows rest) :
      Written text (.value (.number natural)) rest
  | text {text content rest} (hquoted : Quoted text content rest) :
      Written text (.value (.text content)) rest
  | list {text trees rest} (helements : Written text (.elements true trees) rest) :
      Written ('[' :: text) (.value (.list trees)) rest
  | object {text members rest} (hmembers : Written text (.members true members) rest) :
      Written ('\x7b' :: text) (.value (.object members)) rest
  | noElement {text first rest} (hgap : Gap text (']' :: rest)) :
      Written text (.elements first []) rest
  | element {text first value tree more trees rest} (hlead : Lead first text value)
      (hvalue : Written value (.value tree) more)
      (hmore : Written more (.elements false trees) rest) :
      Written text (.elements first (tree :: trees)) rest
  | noMember {text first rest} (hgap : Gap text ('\x7d' :: rest)) :
      Written text (.members first []) rest
  | member {text first key name colon gap value tree more members rest}
      (hlead : Lead first text key) (hkey : Quoted key name colon)
      (hcolon : Gap colon (':' :: gap)) (hgap : Gap gap value)
      (hvalue : Written value (.value tree) more)
      (hmore : Written more (.members false members) rest) :
      Written text (.members first ((name, tree) :: members)) rest

/-- A document holds one value, with white space around it. -/
inductive Document : List Char → Tree → Prop where
  | mk {text value tree rest} (hgap : Gap text value) (hvalue : Written value (.value tree) rest)
      (hend : Gap rest []) : Document text tree

end Decommission.Json
