import ContextIndex.Text.Digit
import ContextIndex.Toml.Reading

/-!
# Writing texts

The writer of a text picks the first of the four styles that shows it without escapes, and escapes
only where none does.
-/

namespace ContextIndex.Toml

/-- The styles of a text. -/
inductive TextStyle
  | quoted
  | literal
  | quotedLines
  | literalLines
deriving DecidableEq, Repr

/-- The most occurrences of a character in a row, when some have been seen right before. -/
def longestRunFrom (c : Char) : Nat → List Char → Nat
  | seen, [] => seen
  | seen, d :: ds =>
    if d = c then longestRunFrom c (seen + 1) ds else max seen (longestRunFrom c 0 ds)

/-- The most occurrences of a character in a row. -/
def longestRun (c : Char) (cs : List Char) : Nat :=
  longestRunFrom c 0 cs

/-- Whether a character has no form of its own: control characters but for tabs and line breaks. -/
def isControl (c : Char) : Bool :=
  !isPrintable c && c != '\n'

/-- The style a text is written in: the first in which it needs no escape. -/
def styleOf (cs : List Char) : TextStyle :=
  let quotes := longestRun '"' cs
  let apostrophes := longestRun '\'' cs
  let oneLine := !cs.contains '\n'
  let plain := !cs.any isControl
  let straight := !cs.contains '\\'
  if plain && straight && quotes == 0 && oneLine then .quoted
  else if plain && apostrophes == 0 && oneLine then .literal
  else if plain && straight && decide (quotes ≤ 2) then .quotedLines
  else if plain && decide (apostrophes ≤ 2) then .literalLines
  else if oneLine then .quoted
  else .quotedLines

/-- The escape of a control character by its number. -/
def numericEscape (c : Char) : List Char :=
  ['\\', 'u', '0', '0', Text.capitalHexDigit (c.toNat / 16), Text.capitalHexDigit (c.toNat % 16)]

/-- A character other than a quote or a line break, as it stands in a text with escapes. -/
def escapeChar (c : Char) : List Char :=
  match c with
  | '\\' => ['\\', '\\']
  | '\t' => ['\\', 't']
  | '\r' => ['\\', 'r']
  | '\x08' => ['\\', 'b']
  | '\x0c' => ['\\', 'f']
  | c => if isControl c then numericEscape c else [c]

/-- The inside of a text between quotes on one line. -/
def quotedBody : List Char → List Char
  | [] => []
  | '"' :: cs => '\\' :: '"' :: quotedBody cs
  | '\n' :: cs => '\\' :: 'n' :: quotedBody cs
  | c :: cs => escapeChar c ++ quotedBody cs

/-- The inside of a text between triple quotes, after some quotes in a row: every third is
escaped. -/
def quotedLinesBody : Nat → List Char → List Char
  | _, [] => []
  | run, '"' :: cs =>
    if run < 2 then '"' :: quotedLinesBody (run + 1) cs
    else '\\' :: '"' :: quotedLinesBody 0 cs
  | _, '\n' :: cs => '\n' :: quotedLinesBody 0 cs
  | _, c :: cs => escapeChar c ++ quotedLinesBody 0 cs

/-- The line break that starts a text on several lines, if it has any. -/
def leadingBreak (cs : List Char) : List Char :=
  if cs.contains '\n' then ['\n'] else []

/-- A text in a style. -/
def writeText (style : TextStyle) (cs : List Char) : List Char :=
  match style with
  | .quoted => '"' :: quotedBody cs ++ ['"']
  | .literal => '\'' :: cs ++ ['\'']
  | .quotedLines => "\"\"\"".toList ++ leadingBreak cs ++ quotedLinesBody 0 cs ++ "\"\"\"".toList
  | .literalLines => "'''".toList ++ leadingBreak cs ++ cs ++ "'''".toList

/-- A text in the style that suits it. -/
def textChars (cs : List Char) : List Char :=
  writeText (styleOf cs) cs

end ContextIndex.Toml
