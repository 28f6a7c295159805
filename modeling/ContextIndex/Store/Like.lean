import ContextIndex.Store.Basic

/-!
# Search by name

A search pattern is matched against the whole of a name: `%` stands for any text, `_` for any one
character, a character after a backslash for itself, and any other character for itself up to the
case of ASCII letters.  A search for a text puts `%` on either side of it and a backslash in front
of each character of it that means something.  A NUL ends the pattern as well as the name that is
compared with it.  Symbols are found in the order of their paths, then by first line.
-/

namespace ContextIndex.Store

/-! ## Patterns -/

/-- Whether two characters are equal up to the case of ASCII letters. -/
def sameLetter (a b : Char) : Bool :=
  a.toLower == b.toLower

/-- Whether a property holds of some end of a list. -/
def anyEnd {α : Type} (p : List α → Bool) : List α → Bool
  | [] => p []
  | a :: as => p (a :: as) || anyEnd p as

/-- Whether a property holds of the rest of a list that starts with some element of a kind. -/
def afterFirst {α : Type} (ok : α → Bool) (p : List α → Bool) : List α → Bool
  | [] => false
  | a :: as => ok a && p as

/-- Whether a pattern matches a text. -/
def likeMatches : List Char → List Char → Bool
  | [] => fun text => text.isEmpty
  | '%' :: pattern => anyEnd (likeMatches pattern)
  | '_' :: pattern => afterFirst (fun _ => true) (likeMatches pattern)
  | ['\\'] => fun _ => false
  | '\\' :: c :: pattern => afterFirst (sameLetter c) (likeMatches pattern)
  | c :: pattern => afterFirst (sameLetter c) (likeMatches pattern)

/-- A text in which every character stands for itself. -/
def escapeLike (text : List Char) : List Char :=
  text.flatMap fun c => if c = '%' ∨ c = '_' ∨ c = '\\' then ['\\', c] else [c]

/-- The pattern for names that contain a text. -/
def containsPattern (text : List Char) : List Char :=
  '%' :: escapeLike text ++ ['%']

/-- A character as a comparison sees it: the two code points at the end of the first plane that are
no characters count as the replacement character. -/
def compared (c : Char) : Char :=
  if c.toNat = 0xFFFE ∨ c.toNat = 0xFFFF then '\ufffd' else c

/-- What is compared of a text: its characters up to the first NUL. -/
def comparedText (text : List Char) : List Char :=
  (text.takeWhile (· ≠ '\x00')).map compared

/-- The longest pattern in bytes. -/
def maxPatternBytes : Nat := 50000

/-! ## Search -/

/-- The most symbols a search may give; from 2^63 on a limit is none. -/
def limited {α : Type} (limit : Nat) (xs : List α) : List α :=
  if limit < signedBound then xs.take limit else xs

/-- The symbols of a repository whose name contains a text, of one kind if it is given, each with
the path of its file.  A pattern that is too long is an error as soon as there is a name to compare
it with. -/
def searchSymbols (s : Store) (repo : Nat) (query : String) (kind : Option SymbolKind)
    (limit : Nat) : Except Error (List (String × Symbol)) :=
  let pattern := containsPattern query.toList
  let candidates := (s.listFiles repo).flatMap fun f => (sortedSymbols f).map fun y => (f.path, y)
  if limit = 0 ∨ candidates.isEmpty then .ok []
  else if maxPatternBytes < Text.byteLength pattern then .error (.storage .patternTooLong)
  else
    .ok (limited limit (candidates.filter fun c =>
      likeMatches (comparedText pattern) (comparedText c.2.name.toList) && kind.all fun k => c.2.kind == k))

end ContextIndex.Store
