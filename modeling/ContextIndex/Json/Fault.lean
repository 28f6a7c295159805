import ContextIndex.Text.Quoted

/-!
# What can be wrong with a JSON document

A document can break the grammar, or it can be well written and not be what is asked for.  Either
way there is one first place where it goes wrong, given by its line and by the bytes before it on
that line.
-/

namespace ContextIndex.Json

/-- What stands where something else is asked for. -/
inductive Found
  | null
  | truth (b : Bool)
  | integer (n : Int)
  /-- A number that is no 64-bit integer, as text. -/
  | real (text : String)
  | text (s : String)
  | list
  | object
deriving DecidableEq, Repr

/-- The words for what was found. -/
def Found.describe : Found → String
  | null => "null"
  | truth b => "boolean `" ++ (if b then "true" else "false") ++ "`"
  | integer n => "integer `" ++ toString n ++ "`"
  | real t => "floating point `" ++ t ++ "`"
  | text s => "string " ++ Text.quoted s
  | list => "sequence"
  | object => "map"

/-- A way for a document to be wrong. -/
inductive Fault
  /-- The document ends where a value is due. -/
  | endInValue
  /-- The document ends inside a list. -/
  | endInList
  /-- The document ends inside an object. -/
  | endInObject
  /-- The document ends inside a string. -/
  | endInString
  /-- Nothing that begins a value. -/
  | noValue
  /-- A word that is none of the three. -/
  | noWord
  /-- No colon after the name of a field. -/
  | noColon
  /-- Neither a comma nor the end after an item. -/
  | noItemEnd
  /-- Neither a comma nor the end after a field. -/
  | noFieldEnd
  /-- The name of a field is no string. -/
  | nameNotString
  /-- A comma with nothing after it. -/
  | trailingComma
  /-- Something after the end. -/
  | trailingText
  /-- A number that breaks its grammar. -/
  | badNumber
  /-- A number too large for any 64 bits. -/
  | hugeNumber
  /-- A backslash before something that is not escaped. -/
  | badEscape
  /-- A bare control character in a string. -/
  | bareControl
  /-- The first half of a character without an escape after it. -/
  | halfCharacter
  /-- A half of a character that does not go with its neighbour. -/
  | oddHalf
  /-- A value of the wrong type. -/
  | wrongType (found : Found) (expected : String)
  /-- A value of the right type that is out of range. -/
  | wrongValue (found : Found) (expected : String)
  /-- A record given as a list that ends too early. -/
  | wrongLength (length : Nat) (expected : String)
  /-- A field that has to be there and is not. -/
  | missingField (name : String)
  /-- A field given twice. -/
  | repeatedField (name : String)
deriving DecidableEq, Repr

/-- The message of a fault. -/
def Fault.message : Fault → String
  | endInValue => "EOF while parsing a value"
  | endInList => "EOF while parsing a list"
  | endInObject => "EOF while parsing an object"
  | endInString => "EOF while parsing a string"
  | noValue => "expected value"
  | noWord => "expected ident"
  | noColon => "expected `:`"
  | noItemEnd => "expected `,` or `]`"
  | noFieldEnd => "expected `,` or `\x7d`"
  | nameNotString => "key must be a string"
  | trailingComma => "trailing comma"
  | trailingText => "trailing characters"
  | badNumber => "invalid number"
  | hugeNumber => "number out of range"
  | badEscape => "invalid escape"
  | bareControl => "control character (\\u0000-\\u001F) found while parsing a string"
  | halfCharacter => "unexpected end of hex escape"
  | oddHalf => "lone leading surrogate in hex escape"
  | wrongType found expected => "invalid type: " ++ found.describe ++ ", expected " ++ expected
  | wrongValue found expected => "invalid value: " ++ found.describe ++ ", expected " ++ expected
  | wrongLength n expected => "invalid length " ++ toString n ++ ", expected " ++ expected
  | missingField name => "missing field `" ++ name ++ "`"
  | repeatedField name => "duplicate field `" ++ name ++ "`"

/-- A place in a text. -/
structure Place where
  /-- The line, from one. -/
  line : Nat
  /-- The bytes before the place on its line. -/
  column : Nat
deriving DecidableEq, Repr

/-- The place after the first `n` bytes of a text that starts at `p`. -/
def Place.after (p : Place) : Nat → List Char → Place
  | _, [] => p
  | 0, _ :: _ => p
  | n + 1, c :: cs =>
    if c = '\n' then Place.after ⟨p.line + 1, 0⟩ n cs
    else Place.after ⟨p.line, p.column + min c.utf8Size (n + 1)⟩ (n + 1 - c.utf8Size) cs

/-- The first fault of a document and where it lies. -/
structure Misreading where
  /-- What is wrong. -/
  fault : Fault
  /-- Where. -/
  place : Place
deriving DecidableEq, Repr

/-- The message of a fault at its place. -/
def Misreading.message (m : Misreading) : String :=
  m.fault.message ++ " at line " ++ toString m.place.line ++ " column " ++ toString m.place.column

example : Place.after ⟨1, 0⟩ 4 "a\nbcd".toList = ⟨2, 2⟩ := by decide +kernel
example : Place.after ⟨1, 0⟩ 2 "aé".toList = ⟨1, 2⟩ := by decide +kernel

end ContextIndex.Json
