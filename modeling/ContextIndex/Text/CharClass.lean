import ContextIndex.Text.Alphabetic
import ContextIndex.Text.Mark
import ContextIndex.Text.Number

/-!
# Classes of characters

The classes the index speaks of: white space, letters, letters and numbers, and the characters of
a word.  Letters and numbers are those of Unicode 17, words those of Unicode 16.  ASCII characters
are decided without the tables.
-/

namespace ContextIndex.Text

/-- White space: the Unicode property `White_Space`. -/
def isSpace (c : Char) : Bool :=
  let n := c.toNat
  (9 ≤ n && n ≤ 13) || n == 0x20 || n == 0x85 || n == 0xA0 || n == 0x1680 ||
    (0x2000 ≤ n && n ≤ 0x200A) || n == 0x2028 || n == 0x2029 || n == 0x202F || n == 0x205F ||
    n == 0x3000

/-- An alphabetic character. -/
def isAlphabetic (c : Char) : Bool :=
  if c.toNat < 128 then c.isAlpha else inRanges alphabeticRanges c.toNat

/-- A character of general category `N`. -/
def isNumeric (c : Char) : Bool :=
  if c.toNat < 128 then c.isDigit else inRanges numberRanges c.toNat

/-- An alphabetic or numeric character. -/
def isAlphanumeric (c : Char) : Bool :=
  isAlphabetic c || isNumeric c

/-- Punctuation that connects words, general category `Pc`. -/
def isConnector (c : Char) : Bool :=
  let n := c.toNat
  n == 0x5F || n == 0x203F || n == 0x2040 || n == 0x2054 || n == 0xFE33 || n == 0xFE34 ||
    (0xFE4D ≤ n && n ≤ 0xFE4F) || n == 0xFF3F

/-- The two characters that control joining. -/
def isJoinControl (c : Char) : Bool :=
  c.toNat == 0x200C || c.toNat == 0x200D

/-- A character of a word: alphabetic, a mark, a decimal digit, connecting punctuation or a join
control. -/
def isWordChar (c : Char) : Bool :=
  if c.toNat < 128 then c.isAlphanum || c == '_'
  else (inRanges alphabeticRanges c.toNat && !inRanges recentRanges c.toNat) ||
    inRanges markRanges c.toNat || inRanges decimalRanges c.toNat || isConnector c ||
    isJoinControl c

/-- Every blank of the ASCII class is white space. -/
theorem isSpace_of_isWhitespace {c : Char} (h : c.isWhitespace = true) : isSpace c = true := by
  simp only [Char.isWhitespace, Bool.or_eq_true, decide_eq_true_eq] at h
  rcases h with ((rfl | rfl) | rfl) | rfl <;> decide

/-- A character of an ASCII letter, digit or underscore belongs to a word. -/
theorem isWordChar_of_ascii {c : Char} (small : c.toNat < 128)
    (h : c.isAlphanum = true ∨ c = '_') : isWordChar c = true := by
  unfold isWordChar
  rw [if_pos small]
  rcases h with h | rfl
  · simp [h]
  · decide

/-- The line feed separates words. -/
theorem isWordChar_newline : isWordChar '\n' = false := by decide

/-! ## Trimming and words -/

/-- Text without its leading white space. -/
def trimStart (cs : List Char) : List Char :=
  cs.dropWhile isSpace

/-- Text without its trailing white space. -/
def trimEnd (cs : List Char) : List Char :=
  (cs.reverse.dropWhile isSpace).reverse

/-- Text without white space at either end. -/
def trim (cs : List Char) : List Char :=
  trimEnd (trimStart cs)

/-- Whether a text holds nothing but white space. -/
def isBlank (cs : List Char) : Bool :=
  cs.all isSpace

/-- The maximal runs of characters that are not white space, `run` being the one under way,
reversed. -/
def splitWords (run : List Char) : List Char → List (List Char)
  | [] => if run.isEmpty then [] else [run.reverse]
  | c :: cs =>
    if isSpace c then
      (if run.isEmpty then splitWords [] cs else run.reverse :: splitWords [] cs)
    else splitWords (c :: run) cs

/-- The maximal runs of characters that are not white space. -/
def words (cs : List Char) : List (List Char) :=
  splitWords [] cs

/-- Words joined by single spaces. -/
def unwords (ws : List (List Char)) : List Char :=
  List.intercalate [' '] ws

/-- A string without white space at either end. -/
def trimString (s : String) : String :=
  String.ofList (trim s.toList)

/-- A string with its ASCII capitals made small. -/
def asciiLower (s : String) : String :=
  s.map Char.toLower

/-- The number of bytes of a text in UTF-8. -/
def byteLength : List Char → Nat
  | [] => 0
  | c :: cs => c.utf8Size + byteLength cs

/-- What is left of a text after its first `n` bytes, if a character starts there. -/
def dropBytes : Nat → List Char → Option (List Char)
  | 0, cs => some cs
  | _ + 1, [] => none
  | n + 1, c :: cs => if c.utf8Size ≤ n + 1 then dropBytes (n + 1 - c.utf8Size) cs else none

/-- A text is what follows it in any longer text, counted in bytes. -/
theorem dropBytes_append (cs ds : List Char) : dropBytes (byteLength cs) (cs ++ ds) = some ds := by
  induction cs with
  | nil => cases ds <;> rfl
  | cons c cs ih =>
    have size : 0 < c.utf8Size := Char.utf8Size_pos c
    have split : byteLength (c :: cs) = (c.utf8Size - 1 + byteLength cs) + 1 := by
      simp only [byteLength]
      omega
    rw [split, List.cons_append, dropBytes, if_pos (by omega)]
    rw [show c.utf8Size - 1 + byteLength cs + 1 - c.utf8Size = byteLength cs by omega]
    exact ih

end ContextIndex.Text
