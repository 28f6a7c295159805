import ContextIndex.Text.Line
import ContextIndex.Text.Quoted

/-!
# What can be wrong with a TOML document

A document can break the grammar, its statements can contradict each other, or its values may not be
what is asked for.  A fault says which part is broken, what could stand there and why it does not,
as far as each is known.  A misreading adds where: the message of one shows the line and marks the
part of it that is meant.
-/

namespace ContextIndex.Toml

/-- The parts of a document that can be broken. -/
inductive Part
  | key
  | header
  | quoted
  | quotedLines
  | literal
  | literalLines
  | escape
  /-- The number of a character, with this many digits. -/
  | code (digits : Nat)
  | integer
  | hexadecimal
  | octal
  | binary
  | float
  | moment
  | time
  | offset
  | array
  | inlineTable
  /-- What is no value of any kind is taken for a text without quotes. -/
  | value
deriving DecidableEq, Repr

/-- The name of a part. -/
def Part.name : Part → String
  | key => "key"
  | header => "table header"
  | quoted => "basic string"
  | quotedLines => "multiline basic string"
  | literal => "literal string"
  | literalLines => "multiline literal string"
  | escape => "escape sequence"
  | code digits => "unicode " ++ toString digits ++ "-digit hex code"
  | integer => "integer"
  | hexadecimal => "hexadecimal integer"
  | octal => "octal integer"
  | binary => "binary integer"
  | float => "floating-point number"
  | moment => "date-time"
  | time => "time"
  | offset => "time offset"
  | array => "array"
  | inlineTable => "inline table"
  | value => "string"

/-- What could stand at a place. -/
inductive Expected
  | sign (s : String)
  | newline
  | digit
  | leadingDigit
deriving DecidableEq, Repr

/-- The words for what could stand at a place. -/
def Expected.describe : Expected → String
  | sign s => "`" ++ s ++ "`"
  | newline => "newline"
  | digit => "digit"
  | leadingDigit => "leading digit"

/-- What stands where something else is asked for. -/
inductive Found
  | text (s : String)
  | integer (n : Int)
  /-- A number with a fraction, as text. -/
  | float (text : String)
  | boolean (b : Bool)
  | list
  | table
deriving DecidableEq, Repr

/-- The words for what was found. -/
def Found.describe : Found → String
  | text s => "string " ++ Text.quoted s
  | integer n => "integer `" ++ toString n ++ "`"
  | float t => "floating point `" ++ t ++ "`"
  | boolean b => "boolean `" ++ (if b then "true" else "false") ++ "`"
  | list => "sequence"
  | table => "map"

/-- Why something cannot stand where it stands. -/
inductive Cause
  /-- A character, a date or a time that does not exist. -/
  | outOfRange
  /-- An integer above 64 bits with a sign. -/
  | tooLarge
  /-- An integer below 64 bits with a sign. -/
  | tooSmall
  /-- Values inside values, or tables inside tables, beyond the limit. -/
  | tooDeep
  /-- A name that is taken already. -/
  | taken (name : String)
  /-- A name that is taken already in the table at the end of a way. -/
  | takenIn (name : String) (way : List String)
  /-- A key that leads through a value of this kind. -/
  | through (way : List String) (kind : String)
  /-- A value of the wrong type. -/
  | wrongType (found : Found) (expected : String)
  /-- An integer that is out of range. -/
  | wrongValue (n : Int) (expected : String)
  /-- A word that is none of the choices. -/
  | unknownWord (word choices : String)
  /-- Neither a word nor a table with one for its only name. -/
  | noWord
  /-- A table in the place of a word, without a name. -/
  | emptyWord
  /-- A table in the place of a word, with several names. -/
  | severalWords
  /-- A table that ought to be empty. -/
  | fullTable
  /-- An array that ought to be empty. -/
  | fullArray
  /-- A value of this kind in the place of an empty table. -/
  | noTable (kind : String)
deriving DecidableEq, Repr

/-- The names of a way, joined by points. -/
def wayText (way : List String) : String :=
  ".".intercalate way

/-- The message of a cause. -/
def Cause.message : Cause → String
  | outOfRange => "value is out of range"
  | tooLarge => "number too large to fit in target type"
  | tooSmall => "number too small to fit in target type"
  | tooDeep => "recursion limit exceeded"
  | taken name => "duplicate key `" ++ name ++ "`"
  | takenIn name [] => "duplicate key `" ++ name ++ "` in document root"
  | takenIn name way => "duplicate key `" ++ name ++ "` in table `" ++ wayText way ++ "`"
  | through way kind =>
    "dotted key `" ++ wayText way ++ "` attempted to extend non-table type (" ++ kind ++ ")"
  | wrongType found expected => "invalid type: " ++ found.describe ++ ", expected " ++ expected
  | wrongValue n expected =>
    "invalid value: " ++ (Found.integer n).describe ++ ", expected " ++ expected
  | unknownWord word choices => "unknown variant `" ++ word ++ "`, expected " ++ choices
  | noWord => "wanted string or table"
  | emptyWord => "wanted exactly 1 element, found 0 elements"
  | severalWords => "wanted exactly 1 element, more than 1 element"
  | fullTable => "expected empty table"
  | fullArray => "expected empty array"
  | noTable kind => "expected table, found " ++ kind

/-- What is wrong. -/
structure Fault where
  /-- The smallest part that is broken. -/
  part : Option Part := none
  /-- What could stand there. -/
  expected : List Expected := []
  /-- Why it cannot stand there. -/
  cause : Option Cause := none
deriving DecidableEq, Repr

/-- The message of a fault, a line for each thing that is known. -/
def Fault.message (f : Fault) : String :=
  "\n".intercalate <|
    (f.part.map fun p => "invalid " ++ p.name).toList ++
    (if f.expected.isEmpty then []
      else ["expected " ++ ", ".intercalate (f.expected.map Expected.describe)]) ++
    (f.cause.map Cause.message).toList

/-! ## Places -/

/-- A stretch of a text, by what is ahead where it starts and where it ends. -/
structure Stretch where
  /-- What is ahead at its start. -/
  start : List Char
  /-- What is ahead at its end. -/
  stop : List Char

/-- The next character of a text. -/
def Stretch.next (ahead : List Char) : Stretch :=
  ⟨ahead, ahead.drop 1⟩

/-- A line and a column, both from zero. -/
structure Place where
  /-- The lines before. -/
  line : Nat
  /-- The columns before on the line. -/
  column : Nat
deriving DecidableEq, Repr

/-- The end of the last line of a text. -/
def lastLine (cs : List Char) : List Char :=
  (cs.reverse.takeWhile (· ≠ '\n')).reverse

/-- The place in a text before what is ahead.  The end of the text is the column after its last
character, also if that ends a line.  A column is a character; before a character of several bytes
it is a byte. -/
def placeOf (text ahead : List Char) : Place :=
  match ahead with
  | [] =>
    if text.isEmpty then ⟨0, 0⟩
    else
      let before := text.dropLast
      ⟨before.count '\n', (lastLine before).length + 1⟩
  | c :: _ =>
    let before := text.take (text.length - ahead.length)
    let line := lastLine before
    ⟨before.count '\n', if c.toNat < 128 then line.length else Text.byteLength line⟩

/-- The first fault of a document and where it lies. -/
structure Misreading where
  /-- What is wrong. -/
  fault : Fault
  /-- Where. -/
  stretch : Stretch

/-- The message of a fault in a text: the line, marks below the part that is meant, and what is
wrong with it.  There is a mark for each byte up to the end of the line, and one at least. -/
def Misreading.message (text : List Char) (m : Misreading) : String :=
  let place := placeOf text m.stretch.start
  let number := toString (place.line + 1)
  let line := ((Text.lines text)[place.line]?).getD []
  let bytes := Text.byteLength m.stretch.start - Text.byteLength m.stretch.stop
  let marks := max 1 (min bytes (Text.byteLength line))
  let margin := String.ofList (List.replicate (number.length + 1) ' ') ++ "|"
  "TOML parse error at line " ++ number ++ ", column " ++ toString (place.column + 1) ++ "\n" ++
    margin ++ "\n" ++ number ++ " | " ++ String.ofList line ++ "\n" ++
    margin ++ String.ofList (List.replicate (place.column + 1) ' ' ++ List.replicate marks '^') ++
    "\n" ++ m.fault.message ++ "\n"

example : ({ part := some .header, expected := [.sign ".", .sign "]"] } : Fault).message =
    "invalid table header\nexpected `.`, `]`" := by decide +kernel
example : placeOf "a\nbé=".toList "=".toList = ⟨1, 2⟩ := by decide +kernel
example : placeOf "a\n".toList [] = ⟨0, 2⟩ := by decide +kernel

end ContextIndex.Toml
