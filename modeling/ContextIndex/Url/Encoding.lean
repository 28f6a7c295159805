import ContextIndex.Text.Digit
import ContextIndex.Text.Utf8

/-!
# Percent encoding

The parts of an address hold few characters as they are; any other character stands as its bytes,
each by a percent sign and two hexadecimal digits.  Which characters a part keeps is its own rule.
-/

namespace ContextIndex.Url

/-- The escape of a byte. -/
def escapeByte (b : UInt8) : List Char :=
  ['%', Text.capitalHexDigit (b.toNat / 16), Text.capitalHexDigit (b.toNat % 16)]

/-- The escape of a character. -/
def escapeChar (c : Char) : List Char :=
  (String.utf8EncodeChar c).flatMap escapeByte

/-- A text of which a part keeps some characters. -/
def encode (keeps : Char → Bool) (cs : List Char) : List Char :=
  cs.flatMap fun c => if keeps c then [c] else escapeChar c

/-- The characters that every part may keep. -/
def isVisible (c : Char) : Bool :=
  decide (0x20 < c.toNat) && decide (c.toNat < 0x7F)

/-- The characters that a fragment keeps. -/
def inFragment (c : Char) : Bool :=
  isVisible c && !(['"', '<', '>', '\x60'].contains c)

/-- The characters that a path keeps. -/
def inPath (c : Char) : Bool :=
  inFragment c && !(['#', '?', '\x7b', '\x7d'].contains c)

/-- The characters that a segment of a path keeps when it is added to the path. -/
def inSegment (special : Bool) (c : Char) : Bool :=
  inPath c && !(['/', '%'].contains c) && !(special && c == '\\')

/-- The characters that a query keeps. -/
def inQuery (special : Bool) (c : Char) : Bool :=
  isVisible c && !(['"', '#', '<', '>'].contains c) && !(special && c == '\'')

/-- The characters that a name or a password keeps. -/
def inCredentials (c : Char) : Bool :=
  inPath c && !(['/', ':', ';', '=', '@', '[', '\\', ']', '^', '|'].contains c)

/-- The characters that a pair of a query keeps. -/
def inForm (c : Char) : Bool :=
  c.isAlphanum || ['*', '-', '.', '_'].contains c

/-- A name or a value of a pair of a query; a blank stands as a plus sign. -/
def formText (cs : List Char) : List Char :=
  cs.flatMap fun c => if c = ' ' then ['+'] else if inForm c then [c] else escapeChar c

/-- Characters that are dropped from every part of an address. -/
def isDropped (c : Char) : Bool :=
  c == '\t' || c == '\n' || c == '\r'

/-- A text without the characters that are dropped. -/
def clean (cs : List Char) : List Char :=
  cs.filter fun c => !isDropped c

/-- The bytes of a text with escapes.  A percent sign without two digits stands for itself. -/
def unescape : List Char → List UInt8
  | [] => []
  | '%' :: a :: b :: cs =>
    match Text.numeral? 16 [a, b] with
    | some n => UInt8.ofNat n :: unescape cs
    | none => 0x25 :: unescape (a :: b :: cs)
  | c :: cs => String.utf8EncodeChar c ++ unescape cs

/-- Whether the bytes of a text with escapes are those of characters. -/
def isReadable (cs : List Char) : Bool :=
  let bytes := unescape cs
  Text.utf8 (Text.fromUtf8 bytes) == bytes

example : encode (inSegment true) "a b/é%".toList = "a%20b%2F%C3%A9%25".toList := by decide +kernel
example : formText "a b&é~".toList = "a+b%26%C3%A9%7E".toList := by decide +kernel

end ContextIndex.Url
