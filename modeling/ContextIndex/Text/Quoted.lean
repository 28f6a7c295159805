import ContextIndex.Text.Hidden

/-!
# Quoted texts

A text between quotes, shown so that nothing in it is invisible: quotes and backslashes are escaped,
and so are the hidden characters, by their code points.
-/

namespace ContextIndex.Text

/-- Whether a character is shown by its code point. -/
def isHidden (c : Char) : Bool :=
  let n := c.toNat
  if n < 0x7F then n < 0x20 else inRanges hiddenRanges n

/-- The digits of a code point. -/
def codeDigits (n : Nat) : List Char :=
  Nat.toDigits 16 n

/-- A character between quotes. -/
def quotedChar (c : Char) : List Char :=
  match c with
  | '\x00' => ['\\', '0']
  | '\t' => ['\\', 't']
  | '\r' => ['\\', 'r']
  | '\n' => ['\\', 'n']
  | '"' => ['\\', '"']
  | '\\' => ['\\', '\\']
  | c => if isHidden c then '\\' :: 'u' :: '\x7b' :: codeDigits c.toNat ++ ['\x7d'] else [c]

/-- A text between quotes. -/
def quoted (s : String) : String :=
  String.ofList ('"' :: s.toList.flatMap quotedChar ++ ['"'])

example : quoted "a\"b\n" = "\"a\\\"b\\n\"" := by decide +kernel
example : quoted "\x1b" = "\"\\u\x7b1b\x7d\"" := by decide +kernel

end ContextIndex.Text
