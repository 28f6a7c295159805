import ContextIndex.Text.Digit
import ContextIndex.Toml.Reading

/-!
# Reading texts

A text is written in one of four styles: between quotes, where a backslash starts an escape, or
between apostrophes, where nothing does, and either on one line or, with three quotes or
apostrophes, on several.  A style with three of them may hold up to two in a row, and drops a line
break right after it begins.

A text that is not closed is broken where its inside stops.  Quotes or apostrophes in a row belong
to the inside only if more of it follows them.
-/

namespace ContextIndex.Toml

/-- The number written by hexadecimal digits, if it is that of a character. -/
def scalar? (digits : List Char) : Option Char := do
  let n ← Text.numeral? 16 digits
  if n < 0xD800 ∨ (0xE000 ≤ n ∧ n < 0x110000) then some (Char.ofNat n) else none

/-- The character that a letter after a backslash stands for. -/
def escape? : Char → Option Char
  | '"' => some '"'
  | '\\' => some '\\'
  | 'b' => some '\x08'
  | 'f' => some '\x0c'
  | 'n' => some '\n'
  | 'r' => some '\r'
  | 't' => some '\t'
  | _ => none

/-- The letters that may follow a backslash. -/
def escapeLetters : List Expected :=
  ["b", "f", "n", "r", "t", "u", "U", "\\", "\""].map .sign

/-- What is wrong with the number of a character, which ought to have some digits. -/
def codeSnag (digits : Nat) (cs : List Char) : Snag :=
  let found := (cs.take digits).takeWhile fun c => (Text.hexDigit? c).isSome
  { fault :=
      { part := some (.code digits)
        cause := if found.length = digits then some .outOfRange else none }
    ahead := cs
    firm := true }

/-- What is wrong after a backslash that starts no escape. -/
def escapeSnag : List Char → Snag
  | 'u' :: cs => codeSnag 4 cs
  | 'U' :: cs => codeSnag 8 cs
  | cs =>
    { fault := { part := some .escape, expected := escapeLetters }
      ahead := afterByte cs
      firm := true }

/-- Whether an escape follows a backslash. -/
def startsEscape : List Char → Bool
  | 'u' :: a :: b :: c :: d :: _ => (scalar? [a, b, c, d]).isSome
  | 'U' :: a :: b :: c :: d :: e :: f :: g :: h :: _ => (scalar? [a, b, c, d, e, f, g, h]).isSome
  | e :: _ => (escape? e).isSome
  | [] => false

/-- A text that is not closed. -/
def unclosed {α : Type} (part : Part) (cs : List Char) : Reading α :=
  .error { fault := { part := some part }, ahead := cs, firm := true }

/-- A reading of more characters, with one in front. -/
def prepend (c : Char) (r : Reading (List Char)) : Reading (List Char) :=
  r.give (c :: ·)

/-- The rest of a text between quotes. -/
def takeQuoted : List Char → Reading (List Char)
  | [] => unclosed .quoted []
  | '"' :: cs => .ok ([], cs)
  | ['\\'] => unclosed .quoted ['\\']
  | '\\' :: 'u' :: a :: b :: c :: d :: cs =>
    match scalar? [a, b, c, d] with
    | some x => prepend x (takeQuoted cs)
    | none => .error (codeSnag 4 (a :: b :: c :: d :: cs))
  | '\\' :: 'U' :: a :: b :: c :: d :: e :: f :: g :: h :: cs =>
    match scalar? [a, b, c, d, e, f, g, h] with
    | some x => prepend x (takeQuoted cs)
    | none => .error (codeSnag 8 (a :: b :: c :: d :: e :: f :: g :: h :: cs))
  | '\\' :: e :: cs =>
    match escape? e with
    | some x => prepend x (takeQuoted cs)
    | none => .error (escapeSnag (e :: cs))
  | c :: cs => if isPrintable c then prepend c (takeQuoted cs) else unclosed .quoted (c :: cs)

/-- The rest of a text between apostrophes. -/
def takeLiteral : List Char → Reading (List Char)
  | [] => unclosed .literal []
  | '\'' :: cs => .ok ([], cs)
  | c :: cs => if isPrintable c then prepend c (takeLiteral cs) else unclosed .literal (c :: cs)

/-- Whether only blanks stand before the next line break. -/
def endsLine (cs : List Char) : Bool :=
  match skipBlanks cs with
  | '\n' :: _ | '\r' :: '\n' :: _ => true
  | _ => false

/-- Whether a text on several lines goes on. -/
def goesOn : List Char → Bool
  | [] => false
  | ['\\'] => false
  | '\n' :: _ => true
  | '\r' :: '\n' :: _ => true
  | c :: _ => isPrintable c

/-- Whether a backslash follows that starts no escape. -/
def startsBadEscape : List Char → Bool
  | '\\' :: e :: cs => !endsLine (e :: cs) && !startsEscape (e :: cs)
  | _ => false

/-- What is wrong with a text on several lines that has such a backslash. -/
def badEscapeSnag (cs : List Char) : Snag :=
  (escapeSnag (cs.drop 1)).inside .quotedLines

/-- One or two quotes inside a text on several lines, the rest of which is read: they end it if
nothing of it follows them. -/
def quotesInside (cs : List Char) (rest : Reading (List Char)) : Reading (List Char) :=
  let behind := cs.dropWhile (· == '"')
  if startsBadEscape behind then .error { badEscapeSnag behind with ahead := behind }
  else if goesOn behind then prepend '"' rest
  else unclosed .quotedLines cs

/-- The rest of a text between triple quotes.  A backslash at the end of a line joins the lines:
then `joining` skips all blanks and line breaks. -/
def takeQuotedLines (joining : Bool) : List Char → Reading (List Char)
  | [] => unclosed .quotedLines []
  | '"' :: '"' :: '"' :: '"' :: '"' :: cs => .ok (['"', '"'], cs)
  | '"' :: '"' :: '"' :: '"' :: cs => .ok (['"'], cs)
  | '"' :: '"' :: '"' :: cs => .ok ([], cs)
  | '"' :: cs => quotesInside ('"' :: cs) (takeQuotedLines false cs)
  | '\r' :: '\n' :: cs =>
    if joining then takeQuotedLines true cs
    else prepend '\n' (takeQuotedLines false cs)
  | ['\\'] => unclosed .quotedLines ['\\']
  | '\\' :: 'u' :: a :: b :: c :: d :: cs =>
    match scalar? [a, b, c, d] with
    | some x => prepend x (takeQuotedLines false cs)
    | none => .error (badEscapeSnag ('\\' :: 'u' :: a :: b :: c :: d :: cs))
  | '\\' :: 'U' :: a :: b :: c :: d :: e :: f :: g :: h :: cs =>
    match scalar? [a, b, c, d, e, f, g, h] with
    | some x => prepend x (takeQuotedLines false cs)
    | none => .error (badEscapeSnag ('\\' :: 'U' :: a :: b :: c :: d :: e :: f :: g :: h :: cs))
  | '\\' :: e :: cs =>
    if endsLine (e :: cs) then takeQuotedLines true (e :: cs)
    else match escape? e with
      | some x => prepend x (takeQuotedLines false cs)
      | none => .error (badEscapeSnag ('\\' :: e :: cs))
  | c :: cs =>
    if joining && (isBlank c || c == '\n') then takeQuotedLines true cs
    else if c = '\n' ∨ isPrintable c then prepend c (takeQuotedLines false cs)
    else unclosed .quotedLines (c :: cs)

/-- One or two apostrophes inside a text on several lines, the rest of which is read: they end it if
nothing of it follows them. -/
def apostrophesInside (cs : List Char) (rest : Reading (List Char)) : Reading (List Char) :=
  let behind := cs.dropWhile (· == '\'')
  if behind == ['\\'] || goesOn behind then prepend '\'' rest
  else unclosed .literalLines cs

/-- The rest of a text between triple apostrophes. -/
def takeLiteralLines : List Char → Reading (List Char)
  | [] => unclosed .literalLines []
  | '\'' :: '\'' :: '\'' :: '\'' :: '\'' :: cs => .ok (['\'', '\''], cs)
  | '\'' :: '\'' :: '\'' :: '\'' :: cs => .ok (['\''], cs)
  | '\'' :: '\'' :: '\'' :: cs => .ok ([], cs)
  | '\'' :: cs => apostrophesInside ('\'' :: cs) (takeLiteralLines cs)
  | '\r' :: '\n' :: cs => prepend '\n' (takeLiteralLines cs)
  | c :: cs =>
    if c = '\n' ∨ isPrintable c then prepend c (takeLiteralLines cs)
    else unclosed .literalLines (c :: cs)

/-- A text without a line break in front. -/
def dropBreak : List Char → List Char
  | '\n' :: cs => cs
  | '\r' :: '\n' :: cs => cs
  | cs => cs

/-- A text in any style. -/
def takeText : List Char → Reading (List Char)
  | '"' :: '"' :: '"' :: cs => takeQuotedLines false (dropBreak cs)
  | '\'' :: '\'' :: '\'' :: cs => takeLiteralLines (dropBreak cs)
  | '"' :: cs => takeQuoted cs
  | '\'' :: cs => takeLiteral cs
  | cs => .error { ahead := cs }

end ContextIndex.Toml
