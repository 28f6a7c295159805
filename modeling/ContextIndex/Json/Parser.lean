import ContextIndex.Json.Value
import ContextIndex.Text.Digit

/-!
# Reading JSON

The grammar of RFC 8259 and nothing beyond it: four characters of white space, no leading zeros, no
bare control characters in strings, one document and nothing after it.  A value consumes at least
one character, so the length of the text bounds the depth of every reading; that bound is the fuel
below, which `parse?` computes.
-/

namespace ContextIndex.Json

/-- The white space of JSON. -/
def isBlank (c : Char) : Bool :=
  c == ' ' || c == '\t' || c == '\n' || c == '\r'

/-- A text without its leading white space. -/
def skipBlanks (cs : List Char) : List Char :=
  cs.dropWhile isBlank

/-! ## Numbers -/

/-- The number that decimal digits write. -/
def digitsValue (ds : List Char) : Nat :=
  ds.foldl (fun n d => 10 * n + (d.toNat - '0'.toNat)) 0

/-- The digits at the front of a text, if there is one. -/
def takeDigits (cs : List Char) : Option (List Char × List Char) :=
  match cs.span Char.isDigit with
  | ([], _) => none
  | (ds, rest) => some (ds, rest)

/-- A fraction, if a point stands in front. -/
def takeFraction : List Char → Option (List Char × List Char)
  | '.' :: cs => (takeDigits cs).map fun (ds, rest) => ('.' :: ds, rest)
  | cs => some ([], cs)

/-- The sign of an exponent. -/
def takeSign : List Char → List Char × List Char
  | '+' :: cs => (['+'], cs)
  | '-' :: cs => (['-'], cs)
  | cs => ([], cs)

/-- An exponent, if its letter stands in front. -/
def takeExponent : List Char → Option (List Char × List Char)
  | [] => some ([], [])
  | c :: cs =>
    if c = 'e' ∨ c = 'E' then
      let (sign, cs) := takeSign cs
      (takeDigits cs).map fun (ds, rest) => (c :: sign ++ ds, rest)
    else some ([], c :: cs)

/-- The digits of an integer: a single zero, or digits that start with none. -/
def takeInteger : List Char → Option (List Char × List Char)
  | '0' :: c :: cs => if c.isDigit then none else some (['0'], c :: cs)
  | cs => takeDigits cs

/-- A number. -/
def takeNumber (cs : List Char) : Option (Json × List Char) := do
  let (sign, cs) := match cs with
    | '-' :: rest => (['-'], rest)
    | _ => ([], cs)
  let (whole, cs) ← takeInteger cs
  let (fraction, cs) ← takeFraction cs
  let (exponent, cs) ← takeExponent cs
  if sign.isEmpty && fraction.isEmpty && exponent.isEmpty then
    return (nat (digitsValue whole), cs)
  else
    return (number (String.ofList (sign ++ whole ++ fraction ++ exponent)), cs)

/-! ## Strings -/

/-- The four hexadecimal digits of an escape. -/
def hexUnit? (a b c d : Char) : Option Nat := do
  let a ← Text.hexDigit? a
  let b ← Text.hexDigit? b
  let c ← Text.hexDigit? c
  let d ← Text.hexDigit? d
  return ((a * 16 + b) * 16 + c) * 16 + d

/-- What one part of a string stands for: a character, or half of one. -/
inductive Unit16
  | char (c : Char)
  | high (n : Nat)
  | low (n : Nat)

/-- The unit an escape names. -/
def unitOf (n : Nat) : Unit16 :=
  if 0xD800 ≤ n ∧ n < 0xDC00 then .high n
  else if 0xDC00 ≤ n ∧ n < 0xE000 then .low n
  else .char (Char.ofNat n)

/-- The character a letter after a backslash stands for. -/
def escape? : Char → Option Char
  | '"' => some '"'
  | '\\' => some '\\'
  | '/' => some '/'
  | 'b' => some '\x08'
  | 'f' => some '\x0c'
  | 'n' => some '\n'
  | 'r' => some '\r'
  | 't' => some '\t'
  | _ => none

/-- The units of a string up to its closing quote, and the text behind that. -/
def takeUnits : List Char → Option (List Unit16 × List Char)
  | [] => none
  | '"' :: cs => some ([], cs)
  | '\\' :: 'u' :: a :: b :: c :: d :: cs => do
    let n ← hexUnit? a b c d
    let (us, rest) ← takeUnits cs
    return (unitOf n :: us, rest)
  | '\\' :: e :: cs => do
    let c ← escape? e
    let (us, rest) ← takeUnits cs
    return (.char c :: us, rest)
  | c :: cs =>
    if c.toNat < 0x20 then none
    else do
      let (us, rest) ← takeUnits cs
      return (.char c :: us, rest)

/-- The text of units, if every half of a character stands before or after its other half. -/
def textOf? : List Unit16 → Option (List Char)
  | [] => some []
  | .char c :: us => (textOf? us).map (c :: ·)
  | .high h :: .low l :: us =>
    (textOf? us).map (Char.ofNat (0x10000 + (h - 0xD800) * 0x400 + (l - 0xDC00)) :: ·)
  | .high _ :: _ => none
  | .low _ :: _ => none

/-- A string whose opening quote is read: its text, if it has one. -/
def takeString (cs : List Char) : Option (Option String × List Char) :=
  (takeUnits cs).map fun (us, rest) => ((textOf? us).map String.ofList, rest)

/-! ## Values -/

/-- A word and the value it stands for. -/
def takeWord (word : String) (v : Json) (cs : List Char) : Option (Json × List Char) :=
  let w := word.toList
  if w.isPrefixOf cs then some (v, cs.drop w.length) else none

/-- A string value. -/
def stringValue : Option String → Json
  | some s => string s
  | none => unpaired

/-- An object value: without a text for every field name it cannot be read. -/
def objectValue (fields : List (Option String × Json)) : Json :=
  match fields.mapM fun (k, v) => k.map (·, v) with
  | some fs => object fs
  | none => unpaired

mutual

/-- A value at the front of a text without leading white space. -/
def takeValue : Nat → List Char → Option (Json × List Char)
  | 0, _ => none
  | _ + 1, [] => none
  | fuel + 1, c :: cs =>
    match c with
    | '"' => (takeString cs).map fun (s, rest) => (stringValue s, rest)
    | '[' =>
      match skipBlanks cs with
      | ']' :: rest => some (array [], rest)
      | rest => (takeItems fuel rest).map fun (vs, rest) => (array vs, rest)
    | '\x7b' =>
      match skipBlanks cs with
      | '\x7d' :: rest => some (object [], rest)
      | rest => (takeFields fuel rest).map fun (fs, rest) => (objectValue fs, rest)
    | 'n' => takeWord "null" null (c :: cs)
    | 't' => takeWord "true" (bool true) (c :: cs)
    | 'f' => takeWord "false" (bool false) (c :: cs)
    | _ => takeNumber (c :: cs)

/-- The items of an array, at least one, and its closing bracket. -/
def takeItems : Nat → List Char → Option (List Json × List Char)
  | 0, _ => none
  | fuel + 1, cs => do
    let (v, cs) ← takeValue fuel (skipBlanks cs)
    match skipBlanks cs with
    | ']' :: rest => return ([v], rest)
    | ',' :: rest =>
      let (vs, rest) ← takeItems fuel rest
      return (v :: vs, rest)
    | _ => none

/-- The fields of an object, at least one, and its closing brace. -/
def takeFields : Nat → List Char → Option (List (Option String × Json) × List Char)
  | 0, _ => none
  | fuel + 1, cs =>
    match skipBlanks cs with
    | '"' :: cs => do
      let (k, cs) ← takeString cs
      match skipBlanks cs with
      | ':' :: cs =>
        let (v, cs) ← takeValue fuel (skipBlanks cs)
        match skipBlanks cs with
        | '\x7d' :: rest => return ([(k, v)], rest)
        | ',' :: rest =>
          let (fs, rest) ← takeFields fuel rest
          return ((k, v) :: fs, rest)
        | _ => none
      | _ => none
    | _ => none

end

/-- The value a text writes, with nothing but white space around it. -/
def parseChars? (cs : List Char) : Option Json :=
  match takeValue (cs.length + 1) (skipBlanks cs) with
  | some (v, rest) => if (skipBlanks rest).isEmpty then some v else none
  | none => none

/-- The value a string writes. -/
def parse? (s : String) : Option Json :=
  parseChars? s.toList

/-- The values a text writes one after another, if it writes nothing else; `fuel` bounds their
number. -/
def parseAll? : Nat → List Char → Option (List Json)
  | 0, _ => none
  | fuel + 1, cs =>
    match skipBlanks cs with
    | [] => some []
    | cs => do
      let (v, rest) ← takeValue (cs.length + 1) cs
      let vs ← parseAll? fuel rest
      return v :: vs

end ContextIndex.Json
