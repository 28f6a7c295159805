import ContextIndex.Toml.Text.Writer
import ContextIndex.Word

/-!
# Writing TOML

A document of pairs and one level of named tables, each under a header of its own after an empty
line.  Numbers are written in decimal, as far as they fit 64 bits with a sign.
-/

namespace ContextIndex.Toml

/-- A value to write. -/
inductive Plain
  | text (s : String)
  | number (n : Nat)
deriving DecidableEq, Repr

/-- A value as it stands behind its key, if it has a form. -/
def Plain.chars? : Plain → Option (List Char)
  | text s => some (textChars s.toList)
  | number n => if n < signedBound then some (toString n).toList else none

/-- The line of a pair. -/
def pairLine? (pair : String × Plain) : Option (List Char) :=
  pair.2.chars?.map fun v => pair.1.toList ++ " = ".toList ++ v ++ ['\n']

/-- The lines of pairs. -/
def pairLines? (pairs : List (String × Plain)) : Option (List Char) :=
  (pairs.mapM pairLine?).map List.flatten

/-- A table to write. -/
structure Section where
  /-- Its name. -/
  name : String
  /-- Its pairs. -/
  pairs : List (String × Plain)
deriving DecidableEq, Repr

/-- The lines of a table, and an empty line before them. -/
def Section.lines? (s : Section) : Option (List Char) :=
  (pairLines? s.pairs).map fun body => '\n' :: '[' :: s.name.toList ++ ']' :: '\n' :: body

/-- A document: the pairs at its top, of which there is one at least, and its tables. -/
def print? (top : List (String × Plain)) (sections : List Section) : Option String := do
  let head ← pairLines? top
  let bodies ← sections.mapM Section.lines?
  return String.ofList (head ++ bodies.flatten)

end ContextIndex.Toml
