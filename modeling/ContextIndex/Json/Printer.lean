import ContextIndex.Json.Value

/-!
# Writing JSON

A value is written without white space, or on several lines with two blanks for each level.  In a
string only the quote, the backslash and control characters are escaped, the frequent ones by a
letter and the others by four hexadecimal digits.  A value without a text is written as null.
-/

namespace ContextIndex.Json

/-- The escape of a control character, by its last two hexadecimal digits. -/
def controlEscape (c : Char) : List Char :=
  ['\\', 'u', '0', '0', Nat.digitChar (c.toNat / 16), Nat.digitChar (c.toNat % 16)]

/-- A character as it stands in a string. -/
def escapeChar (c : Char) : List Char :=
  match c with
  | '"' => ['\\', '"']
  | '\\' => ['\\', '\\']
  | '\n' => ['\\', 'n']
  | '\r' => ['\\', 'r']
  | '\t' => ['\\', 't']
  | '\x08' => ['\\', 'b']
  | '\x0c' => ['\\', 'f']
  | c => if c.toNat < 0x20 then controlEscape c else [c]

/-- A string between quotes. -/
def quote (s : String) : List Char :=
  '"' :: s.toList.flatMap escapeChar ++ ['"']

/-- Pieces with a separator between them. -/
def separated (sep : List Char) : List (List Char) → List Char
  | [] => []
  | [p] => p
  | p :: ps => p ++ sep ++ separated sep ps

/-- The text of a value that holds no other. -/
def atom : Json → List Char
  | bool true => "true".toList
  | bool false => "false".toList
  | nat n => (toString n).toList
  | number literal => literal.toList
  | string s => quote s
  | _ => "null".toList

mutual

/-- A value without white space. -/
def compactChars : Json → List Char
  | array items => '[' :: separated [','] (compactItems items) ++ [']']
  | object fields => '\x7b' :: separated [','] (compactFields fields) ++ ['\x7d']
  | v => atom v

/-- The items of an array. -/
def compactItems : List Json → List (List Char)
  | [] => []
  | v :: vs => compactChars v :: compactItems vs

/-- The fields of an object. -/
def compactFields : List (String × Json) → List (List Char)
  | [] => []
  | (k, v) :: fs => (quote k ++ ':' :: compactChars v) :: compactFields fs

end

/-- A value as a string without white space. -/
def compact (v : Json) : String :=
  String.ofList (compactChars v)

/-- A line break and the indentation of a level. -/
def breakLine (depth : Nat) : List Char :=
  '\n' :: List.replicate (2 * depth) ' '

mutual

/-- A value on several lines, at a level. -/
def prettyChars (depth : Nat) : Json → List Char
  | array [] => ['[', ']']
  | object [] => ['\x7b', '\x7d']
  | array items =>
    '[' :: breakLine (depth + 1) ++
      separated (',' :: breakLine (depth + 1)) (prettyItems (depth + 1) items) ++
      breakLine depth ++ [']']
  | object fields =>
    '\x7b' :: breakLine (depth + 1) ++
      separated (',' :: breakLine (depth + 1)) (prettyFields (depth + 1) fields) ++
      breakLine depth ++ ['\x7d']
  | v => atom v

/-- The items of an array. -/
def prettyItems (depth : Nat) : List Json → List (List Char)
  | [] => []
  | v :: vs => prettyChars depth v :: prettyItems depth vs

/-- The fields of an object. -/
def prettyFields (depth : Nat) : List (String × Json) → List (List Char)
  | [] => []
  | (k, v) :: fs => (quote k ++ ':' :: ' ' :: prettyChars depth v) :: prettyFields depth fs

end

/-- A value as a string on several lines. -/
def pretty (v : Json) : String :=
  String.ofList (prettyChars 0 v)

end ContextIndex.Json
