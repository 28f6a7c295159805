import ContextIndex.Decimal.Shortest
import ContextIndex.Json.Fault
import ContextIndex.Json.Parser
import ContextIndex.Text.CharClass
import ContextIndex.Word

/-!
# Shapes of JSON documents

A shape is what a document is asked to be: a string, a 64-bit quantity, a list, a record.  It reads
the front of a text and gives what follows, or says what is wrong and how far the reading came.
`misreading` finds the first fault of a document for a shape; a document that is refused has one.

White space before a value belongs to it.  A fault that concerns the next character lies after its
first byte.
-/

namespace ContextIndex.Json

/-- A fault on the way: what is wrong, the text still ahead, and how many of its bytes the fault
takes in. -/
structure Snag where
  /-- What is wrong. -/
  fault : Fault
  /-- The text still ahead. -/
  ahead : List Char
  /-- The bytes of it that the fault takes in. -/
  bytes : Nat := 0

/-- The outcome of reading something at the front of a text. -/
abbrev Reading (α : Type) := Except Snag α

/-- A fault at the next character. -/
def Snag.next (fault : Fault) (cs : List Char) : Snag := ⟨fault, cs, 1⟩

/-! ## Words, numbers and strings -/

/-- What follows the letters of a word. -/
def readWord : List Char → List Char → Reading (List Char)
  | [], cs => .ok cs
  | _ :: _, [] => .error ⟨.endInValue, [], 0⟩
  | w :: ws, c :: cs => if c = w then readWord ws cs else .error (.next .noWord (c :: cs))

/-- The number that the first digits of a text add to `n`, as long as it is a 64-bit quantity, and
the digits that would lead beyond. -/
def takeWordDigits (n : Nat) : List Char → Nat × List Char
  | [] => (n, [])
  | d :: ds =>
    let m := 10 * n + (d.toNat - '0'.toNat)
    if m < wordBound then takeWordDigits m ds else (n, d :: ds)

/-- A quotient by a power of ten, divided in steps that a binary64 number can hold. -/
def divideByTens (x : Float) (exponent : Nat) : Float :=
  if h : exponent ≤ 308 then x / Float.ofScientific 1 false exponent
  else if x == 0 then x
  else divideByTens (x / Float.ofScientific 1 false 308) (exponent - 308)
termination_by exponent

/-- A 64-bit quantity times a power of ten, if it is finite. -/
def timesTens? (n : Nat) (exponent : Int) : Option Float :=
  let x := Float.ofNat n
  if exponent < 0 then some (divideByTens x (-exponent).toNat)
  else if exponent ≤ 308 then
    let y := x * Float.ofScientific 1 false exponent.toNat
    if y.isInf then none else some y
  else if x == 0 then some x
  else none

/-- What a number is: an integer of 64 bits, or a real number. -/
def numberFound (negative : Bool) (n : Nat) (exponent : Int) (whole : Bool) : Option Found :=
  if whole && !negative then some (.integer n)
  else if whole && 0 < n && n ≤ signedBound then some (.integer (-n))
  else (timesTens? n exponent).map fun x => .real (Decimal.realText (if negative then -x else x))

/-- The largest exponent that is read to its end whatever it scales. -/
def exponentLimit : Nat := 2147483647

/-- The digits behind the first one that takes an exponent beyond its limit, if one does. -/
def beyondLimit (n : Nat) : List Char → Option (List Char)
  | [] => none
  | d :: ds =>
    let m := 10 * n + (d.toNat - '0'.toNat)
    if exponentLimit < m then some ds else beyondLimit m ds

/-- The digits of the exponent of a number and what follows: its sign may stand before them.  An
exponent beyond the limit makes the number too large right there, unless the number is zero or the
exponent negative. -/
def readExponent (significand : Nat) (cs : List Char) : Reading (Int × List Char) :=
  let (sign, cs) := takeSign cs
  match cs.span Char.isDigit with
  | ([], []) => .error ⟨.endInValue, [], 0⟩
  | ([], rest) => .error (.next .badNumber rest)
  | (ds, rest) =>
    match beyondLimit 0 ds with
    | none =>
      let n : Int := digitsValue ds
      .ok (if sign = ['-'] then -n else n, rest)
    | some later =>
      if sign = ['-'] then .ok (-exponentLimit, rest)
      else if significand = 0 then .ok (0, rest)
      else .error ⟨.hugeNumber, later ++ rest, 0⟩

/-- The digits after the point of a number, at least one, and what follows. -/
def readFraction (cs : List Char) : Reading (List Char × List Char) :=
  match cs.span Char.isDigit with
  | ([], []) => .error ⟨.endInValue, [], 0⟩
  | ([], rest) => .error (.next .badNumber rest)
  | (ds, rest) => .ok (ds, rest)

/-- Whether an exponent follows. -/
def startsExponent : List Char → Bool
  | 'e' :: _ => true
  | 'E' :: _ => true
  | _ => false

/-- A number whose sign is read, and what follows. -/
def readNumber (negative : Bool) (cs : List Char) : Reading (Found × List Char) :=
  match cs.span Char.isDigit with
  | ([], []) => .error ⟨.endInValue, [], 0⟩
  | ([], rest) => .error (.next .badNumber rest)
  | ('0' :: d :: ds, rest) => .error (.next .badNumber (d :: ds ++ rest))
  | (ds, rest) => do
    let (n, beyond) := takeWordDigits 0 ds
    let (n, exponent, whole, rest) ← (match rest with
      | '.' :: rest => do
        let (fs, rest) ← readFraction rest
        let (m, dropped) := takeWordDigits n fs
        .ok (m, (beyond.length : Int) - ((fs.length : Int) - dropped.length), false, rest)
      | rest => .ok (n, (beyond.length : Int), beyond.isEmpty, rest) :
        Reading (Nat × Int × Bool × List Char))
    let (exponent, whole, rest) ← (
      if startsExponent rest then do
        let (e, rest) ← readExponent n (rest.drop 1)
        .ok (exponent + e, false, rest)
      else .ok (exponent, whole, rest) : Reading (Int × Bool × List Char))
    match numberFound negative n exponent whole with
    | some found => .ok (found, rest)
    | none => .error ⟨.hugeNumber, rest, 0⟩

/-- The unit that four hexadecimal digits write; the four bytes they take are read as one. -/
def readUnit (cs : List Char) : Reading (Unit16 × List Char) :=
  if Text.byteLength (cs.take 4) < 4 then .error ⟨.endInString, [], 0⟩
  else match cs with
    | a :: b :: c :: d :: rest =>
      match hexUnit? a b c d with
      | some n => .ok (unitOf n, rest)
      | none => .error ⟨.badEscape, cs, 4⟩
    | _ => .error ⟨.badEscape, cs, 4⟩

/-- The second half of a character, which has to be escaped as well. -/
def readLowHalf : List Char → Reading (List Char)
  | '\\' :: 'u' :: cs => do
    match ← readUnit cs with
    | (.low _, rest) => .ok rest
    | (_, rest) => .error ⟨.oddHalf, rest, 0⟩
  | ['\\'] => .error ⟨.endInString, [], 0⟩
  | '\\' :: cs => .error (.next .halfCharacter cs)
  | [] => .error ⟨.endInString, [], 0⟩
  | cs => .error (.next .halfCharacter cs)

/-- What follows the part of a string after a backslash. -/
def readEscape : List Char → Reading (List Char)
  | [] => .error ⟨.endInString, [], 0⟩
  | 'u' :: cs => do
    match ← readUnit cs with
    | (.char _, rest) => .ok rest
    | (.high _, rest) => readLowHalf rest
    | (.low _, rest) => .error ⟨.oddHalf, rest, 0⟩
  | e :: cs => if (escape? e).isSome then .ok cs else .error (.next .badEscape (e :: cs))

/-- What follows the part of a string after a backslash, if the string is skipped. -/
def skipEscape : List Char → Reading (List Char)
  | [] => .error ⟨.endInString, [], 0⟩
  | 'u' :: cs => (readUnit cs).map (·.2)
  | e :: cs => if (escape? e).isSome then .ok cs else .error (.next .badEscape (e :: cs))

/-- What follows a string whose opening quote is read; a bare control character is a fault that
takes in `control` bytes, and `fuel` bounds the characters. -/
def readRest (escaped : List Char → Reading (List Char)) (control : Nat) :
    Nat → List Char → Reading (List Char)
  | 0, cs => .error ⟨.endInString, cs, 0⟩
  | _ + 1, [] => .error ⟨.endInString, [], 0⟩
  | _ + 1, '"' :: cs => .ok cs
  | fuel + 1, '\\' :: cs => do readRest escaped control fuel (← escaped cs)
  | fuel + 1, c :: cs =>
    if c.toNat < 0x20 then .error ⟨.bareControl, c :: cs, control⟩
    else readRest escaped control fuel cs

/-- A string whose opening quote is read, and what follows. -/
def readString (cs : List Char) : Reading (String × List Char) := do
  let rest ← readRest readEscape 1 (cs.length + 1) cs
  match takeString cs with
  | some (some s, _) => .ok (s, rest)
  | _ => .ok ("", rest)

/-- What follows a string whose opening quote is read, if nobody asks for its text. -/
def skipString (cs : List Char) : Reading (List Char) :=
  readRest skipEscape 0 (cs.length + 1) cs

/-! ## Values that nobody asks for -/

/-- What follows the exponent of a skipped number. -/
def skipExponent (cs : List Char) : Reading (List Char) :=
  if startsExponent cs then
    match (takeSign (cs.drop 1)).2.span Char.isDigit with
    | ([], rest) => .error (.next .badNumber rest)
    | (_, rest) => .ok rest
  else .ok cs

/-- What follows a skipped number whose sign is read. -/
def skipNumber (cs : List Char) : Reading (List Char) :=
  match cs.span Char.isDigit with
  | ([], rest) => .error (.next .badNumber rest)
  | ('0' :: d :: ds, rest) => .error (.next .badNumber (d :: ds ++ rest))
  | (_, '.' :: rest) =>
    match rest.span Char.isDigit with
    | ([], rest) => .error (.next .badNumber rest)
    | (_, rest) => skipExponent rest
  | (_, rest) => skipExponent rest

/-- The colon after the name of a field. -/
def readColon (cs : List Char) : Reading (List Char) :=
  match skipBlanks cs with
  | ':' :: rest => .ok rest
  | [] => .error (.next .endInObject [])
  | cs => .error (.next .noColon cs)

mutual

/-- What follows a skipped value. -/
def skipValue : Nat → List Char → Reading (List Char)
  | 0, cs => .error (.next .noValue cs)
  | fuel + 1, cs =>
    match skipBlanks cs with
    | [] => .error (.next .endInValue [])
    | 'n' :: cs => readWord "ull".toList cs
    | 't' :: cs => readWord "rue".toList cs
    | 'f' :: cs => readWord "alse".toList cs
    | '"' :: cs => skipString cs
    | '-' :: cs => skipNumber cs
    | '[' :: cs =>
      match skipBlanks cs with
      | ']' :: rest => .ok rest
      | [] => .error (.next .endInList [])
      | rest => skipItems fuel rest
    | '\x7b' :: cs =>
      match skipBlanks cs with
      | '\x7d' :: rest => .ok rest
      | rest => skipFields fuel rest
    | c :: cs => if c.isDigit then skipNumber (c :: cs) else .error (.next .noValue (c :: cs))

/-- What follows the items of a skipped list. -/
def skipItems : Nat → List Char → Reading (List Char)
  | 0, cs => .error (.next .noValue cs)
  | fuel + 1, cs => do
    match skipBlanks (← skipValue fuel cs) with
    | ']' :: rest => .ok rest
    | ',' :: rest => skipItems fuel rest
    | [] => .error (.next .endInList [])
    | rest => .error (.next .noItemEnd rest)

/-- What follows the fields of a skipped object. -/
def skipFields : Nat → List Char → Reading (List Char)
  | 0, cs => .error (.next .noValue cs)
  | fuel + 1, cs =>
    match skipBlanks cs with
    | '"' :: cs => do
      let cs ← readColon (← skipString cs)
      match skipBlanks (← skipValue fuel cs) with
      | '\x7d' :: rest => .ok rest
      | ',' :: rest => skipFields fuel rest
      | [] => .error (.next .endInObject [])
      | rest => .error (.next .noFieldEnd rest)
    | [] => .error (.next .endInObject [])
    | cs => .error (.next .nameNotString cs)

end

/-! ## Shapes -/

/-- What follows a value of the shape. -/
abbrev Shape := List Char → Reading (List Char)

/-- The fault of a value of another type: `cs` starts with its first character. -/
def otherType (expected : String) (cs : List Char) : Snag :=
  let found (r : Reading (Found × List Char)) : Snag :=
    match r with
    | .ok (x, rest) => ⟨.wrongType x expected, rest, 0⟩
    | .error snag => snag
  match cs with
  | [] => .next .endInValue []
  | 'n' :: cs => found ((readWord "ull".toList cs).map (.null, ·))
  | 't' :: cs => found ((readWord "rue".toList cs).map (.truth true, ·))
  | 'f' :: cs => found ((readWord "alse".toList cs).map (.truth false, ·))
  | '"' :: cs => found ((readString cs).map fun (s, rest) => (.text s, rest))
  | '-' :: cs => found (readNumber true cs)
  | '[' :: _ => ⟨.wrongType .list expected, cs, 0⟩
  | '\x7b' :: _ => ⟨.wrongType .object expected, cs, 0⟩
  | c :: _ => if c.isDigit then found (readNumber false cs) else .next .noValue cs

/-- A string. -/
def Shape.text : Shape := fun cs =>
  match skipBlanks cs with
  | '"' :: rest => (readString rest).map (·.2)
  | cs => .error (otherType "a string" cs)

/-- The words for a 64-bit quantity. -/
def quantityName : String := "usize"

/-- A 64-bit quantity. -/
def Shape.quantity : Shape := fun cs =>
  let check (r : Reading (Found × List Char)) : Reading (List Char) := do
    match ← r with
    | (.integer n, rest) =>
      if 0 ≤ n then .ok rest else .error ⟨.wrongValue (.integer n) quantityName, rest, 0⟩
    | (found, rest) => .error ⟨.wrongType found quantityName, rest, 0⟩
  match skipBlanks cs with
  | [] => .error (.next .endInValue [])
  | '-' :: rest => check (readNumber true rest)
  | c :: cs =>
    if c.isDigit then check (readNumber false (c :: cs))
    else .error (otherType quantityName (c :: cs))

/-- A value that may be null instead. -/
def Shape.optional (shape : Shape) : Shape := fun cs =>
  match skipBlanks cs with
  | 'n' :: rest => readWord "ull".toList rest
  | cs => shape cs

/-- What stands before an item of a list: the end of the list is `none`, otherwise the text at the
item. -/
def beforeItem (first : Bool) (cs : List Char) : Reading (Option (List Char)) :=
  match skipBlanks cs with
  | [] => .error (.next .endInList [])
  | ']' :: _ => .ok none
  | c :: cs =>
    if first then .ok (some (c :: cs))
    else if c = ',' then
      match skipBlanks cs with
      | [] => .error (.next .endInValue [])
      | ']' :: rest => .error (.next .trailingComma (']' :: rest))
      | rest => .ok (some rest)
    else .error (.next .noItemEnd (c :: cs))

/-- The end of a list after its last item. -/
def endOfList (cs : List Char) : Reading (List Char) :=
  match skipBlanks cs with
  | ']' :: rest => .ok rest
  | [] => .error (.next .endInList [])
  | ',' :: rest =>
    match skipBlanks rest with
    | ']' :: rest => .error (.next .trailingComma (']' :: rest))
    | rest => .error (.next .trailingText rest)
  | rest => .error (.next .trailingText rest)

/-- The items of a list and its end; `fuel` bounds their number. -/
def readItems (shape : Shape) : Nat → Bool → List Char → Reading (List Char)
  | 0, _, cs => .error (.next .noValue cs)
  | fuel + 1, first, cs => do
    match ← beforeItem first cs with
    | none => endOfList cs
    | some item => readItems shape fuel false (← shape item)

/-- A list of values. -/
def Shape.list (shape : Shape) : Shape := fun cs =>
  match skipBlanks cs with
  | '[' :: rest => readItems shape (rest.length + 1) true rest
  | cs => .error (otherType "a sequence" cs)

/-- A field of a record. -/
structure FieldShape where
  /-- Its name. -/
  name : String
  /-- What it is. -/
  shape : Shape
  /-- Whether it has to be there. -/
  required : Bool := false

/-- The words for a record with so many fields. -/
def fieldsName (expected : String) (n : Nat) : String :=
  expected ++ " with " ++ toString n ++ " element" ++ (if n = 1 then "" else "s")

/-- The fields of a record given as a list, and its end; `place` counts the fields before. -/
def readListed (whole : String) : Nat → List FieldShape → List Char → Reading (List Char)
  | _, [], cs => endOfList cs
  | place, f :: fs, cs => do
    match ← beforeItem (place == 0) cs with
    | some item => readListed whole (place + 1) fs (← f.shape item)
    | none =>
      match (f :: fs).findIdx? (·.required) with
      | some i => .error ⟨.wrongLength (place + i) whole, (skipBlanks cs).drop 1, 0⟩
      | none => endOfList cs

/-- What stands before a field of an object: the end of the object is `none`, otherwise the text
after the quote that opens the field's name. -/
def beforeField (first : Bool) (cs : List Char) : Reading (Option (List Char)) :=
  match skipBlanks cs with
  | [] => .error (.next .endInObject [])
  | '\x7d' :: _ => .ok none
  | c :: cs =>
    if first then
      if c = '"' then .ok (some cs) else .error (.next .nameNotString (c :: cs))
    else if c = ',' then
      match skipBlanks cs with
      | [] => .error (.next .endInValue [])
      | '"' :: rest => .ok (some rest)
      | '\x7d' :: rest => .error (.next .trailingComma ('\x7d' :: rest))
      | rest => .error (.next .nameNotString rest)
    else .error (.next .noFieldEnd (c :: cs))

/-- The end of an object that a fault leaves early, as far as it stands right there. -/
def afterObject (cs : List Char) : List Char :=
  match skipBlanks cs with
  | '\x7d' :: rest => rest
  | rest => rest

/-- The fields of a record given as an object, and its end; `seen` holds the names read so far, and
`fuel` bounds the fields. -/
def readNamed (fields : List FieldShape) :
    Nat → List String → Bool → List Char → Reading (List Char)
  | 0, _, _, cs => .error (.next .noValue cs)
  | fuel + 1, seen, first, cs => do
    match ← beforeField first cs with
    | none =>
      match fields.find? fun f => f.required && !(seen.contains f.name) with
      | some f => .error ⟨.missingField f.name, afterObject cs, 0⟩
      | none => .ok (afterObject cs)
    | some cs =>
      let (name, cs) ← readString cs
      match fields.find? (·.name == name) with
      | none =>
        let cs ← readColon cs
        readNamed fields fuel seen false (← skipValue (cs.length + 1) cs)
      | some f =>
        if seen.contains name then .error ⟨.repeatedField name, afterObject cs, 0⟩
        else readNamed fields fuel (name :: seen) false (← f.shape (← readColon cs))

/-- A record. -/
def Shape.record (expected : String) (fields : List FieldShape) : Shape := fun cs =>
  match skipBlanks cs with
  | '[' :: rest => readListed (fieldsName expected fields.length) 0 fields rest
  | '\x7b' :: rest => readNamed fields (rest.length + 1) [] true rest
  | cs => .error (otherType expected cs)

/-! ## Documents -/

/-- A document of a shape, with nothing but white space after it. -/
def Shape.document (shape : Shape) (cs : List Char) : Reading Unit := do
  match skipBlanks (← shape cs) with
  | [] => .ok ()
  | rest => .error (.next .trailingText rest)

/-- The place of a fault in a document. -/
def Snag.place (snag : Snag) (document : List Char) : Place :=
  Place.after ⟨1, 0⟩
    (Text.byteLength document - Text.byteLength snag.ahead + snag.bytes) document

/-- The first fault of a document for a shape. -/
def Shape.misreading? (shape : Shape) (s : String) : Option Misreading :=
  match shape.document s.toList with
  | .ok () => none
  | .error snag => some ⟨snag.fault, snag.place s.toList⟩

/-- The first fault of a document that is refused. -/
def Shape.misreading (shape : Shape) (s : String) : Misreading :=
  (shape.misreading? s).getD ⟨.noValue, Place.after ⟨1, 0⟩ s.utf8ByteSize s.toList⟩

example : (Shape.misreading Shape.text "nope").message = "expected ident at line 1 column 2" := by
  decide +kernel
example : (Shape.misreading (Shape.list Shape.text) "[\"a\",\n 1]").message =
    "invalid type: integer `1`, expected a string at line 2 column 2" := by decide +kernel

end ContextIndex.Json
