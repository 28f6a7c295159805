import ContextIndex.Text.Line
import ContextIndex.Symbol

/-!
# The shared filter

What any extractor reports goes through one filter before it reaches the index.  It keeps the
declarations whose name is an identifier and no word of control flow and whose range lies in the
file, of several with the same name and first line only the first, ordered by first line.  Then
declarations inside a container get its name as parent, and functions there become methods.
-/

namespace ContextIndex.Extract

/-- Words of control flow, which declare nothing. -/
def deniedNames : List String :=
  ["if", "for", "while", "switch", "case", "else", "do", "return", "break", "continue", "try",
    "catch", "default", "goto", "elif", "match", "loop", "foreach", "with", "finally", "throw",
    "new", "sizeof", "typeof"]

/-- Whether a name is a word of control flow, whatever the case of its ASCII letters. -/
def isDenied (name : String) : Bool :=
  deniedNames.contains (Text.asciiLower name)

/-- Whether a name is an identifier: letters, numbers, `_` and `$`, no number first. -/
def isIdentifier (name : String) : Bool :=
  match name.toList with
  | [] => false
  | c :: cs =>
    (Text.isAlphabetic c || c == '_' || c == '$') &&
      cs.all fun d => Text.isAlphanumeric d || d == '_' || d == '$'

/-- Whether a declaration may be kept in a file with this many lines. -/
def isAcceptable (lineCount : Nat) (d : Declaration) : Bool :=
  isIdentifier d.name && !isDenied d.name && decide (1 ≤ d.first) && decide (d.first ≤ d.last) &&
    decide (d.last ≤ lineCount)

/-- Whether two declarations have the same name and first line. -/
def sameHead (d e : Declaration) : Bool :=
  d.name == e.name && d.first == e.first

/-- The first of the declarations with each name and first line. -/
def firstOfEach : List Declaration → List Declaration
  | [] => []
  | d :: ds => d :: (firstOfEach ds).filter fun e => !sameHead d e

/-- The first of the elements with the least key. -/
def leastBy? {α : Type} (key : α → Nat) : List α → Option α
  | [] => none
  | a :: as =>
    match leastBy? key as with
    | none => some a
    | some b => if key b < key a then some b else some a

/-- The innermost container of a list that encloses a declaration. -/
def innermost? (containers : List Declaration) (d : Declaration) : Option Declaration :=
  leastBy? (fun c => c.last - c.first) (containers.filter fun c => c.encloses d)

/-- A declaration with the parent and the kind that its innermost container gives it. -/
def placeIn (containers : List Declaration) (d : Declaration) : Declaration :=
  match innermost? containers d with
  | none => d
  | some c =>
    { d with
      parent := some (d.parent.getD c.name)
      kind := if d.kind = .function then .method else d.kind }

/-- Every declaration placed in the containers among them. -/
def assignParents (ds : List Declaration) : List Declaration :=
  ds.map (placeIn (ds.filter fun d => d.kind.isContainer))

/-- The declarations of a file that the index keeps. -/
def settle (ds : List Declaration) (lineCount : Nat) : List Declaration :=
  assignParents
    ((firstOfEach (ds.filter (isAcceptable lineCount))).mergeSort fun d e => d.first ≤ e.first)

end ContextIndex.Extract
