import ContextIndex.Extract.Filter
import ContextIndex.Extract.Layout
import ContextIndex.Pattern

/-!
# Candidate names

The body of a symbol mentions other symbols of its file.  Candidates for types are the words that
start with an ASCII capital and go on with ASCII letters, digits and underscores.  Candidates for
callees are the words of letters, digits and underscores with a bracket behind them.  Both are found
by a pattern that has an edge of a word in front of the name.
-/

namespace ContextIndex.Query

open Pattern

/-- An ASCII capital. -/
def capital : CharClass := .oneOf "ABCDEFGHIJKLMNOPQRSTUVWXYZ".toList

/-- An ASCII letter. -/
def letter : CharClass := .either capital (.oneOf "abcdefghijklmnopqrstuvwxyz".toList)

/-- An ASCII digit or an underscore. -/
def digitOrUnderscore : CharClass := .oneOf "0123456789_".toList

/-- A letter of a callee, whose case does not count: an ASCII letter, or one of the two other
characters that are equal to one up to case. -/
def caselessLetter : CharClass := .either letter (.oneOf ['\u017f', '\u212a'])

/-- The name of a type. -/
def typePattern : Pattern :=
  all [edge, nameStart, one capital, many (.either letter digitOrUnderscore), nameStop, edge]

/-- The name of a callee and the bracket behind it. -/
def calleePattern : Pattern :=
  all [edge, nameStart, one caselessLetter, many (.either caselessLetter digitOrUnderscore),
    nameStop, many .space, char '(']

/-- The names that a pattern marks in a text, in order. -/
def namesIn (p : Pattern) (text : List Char) : List String :=
  let layout := Extract.Layout.ofText text
  (p.matches text).map fun m => String.ofList (layout.slice m.reach.nameStart m.reach.nameStop)

/-- The first of the given names that differ, without `exclude` and words of control flow. -/
def distinctNames (exclude : String) (limit : Nat) (names : List String) : List String :=
  ((names.filter fun n => n != exclude && !Extract.isDenied n).eraseDups).take limit

/-- The most types looked up for one symbol. -/
def maxTypes : Nat := 10

/-- The most callees looked up for one symbol. -/
def maxCallees : Nat := 20

/-- The candidates for types in a text. -/
def referencedTypeNames (text exclude : String) : List String :=
  distinctNames exclude maxTypes (namesIn typePattern text.toList)

/-- The candidates for callees in a text. -/
def calleeNames (text exclude : String) : List String :=
  distinctNames exclude maxCallees (namesIn calleePattern text.toList)

end ContextIndex.Query
