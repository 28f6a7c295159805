import ContextIndex.Extract.Scan
import ContextIndex.Query.Budget
import ContextIndex.Query.Lookup

/-!
# Parts of a file

A query for a whole file, for some of its lines or for one of its functions.  The part is cut to the
budget.  A function is looked up among the stored symbols first and in the content after that, since
the symbols may come from another extractor.
-/

namespace ContextIndex.Query

/-- The tokens of an answer unless told otherwise. -/
def defaultMaxTokens : Nat := 8000

/-- A part of a file. -/
inductive FileSelector
  /-- All of it. -/
  | whole
  /-- Its lines from one to another. -/
  | lines (first last : Nat)
  /-- The lines of a symbol. -/
  | function (name : String)
deriving DecidableEq, Repr

/-- A part of a file as it is answered. -/
structure FileSlice where
  /-- Where the file is. -/
  path : String
  /-- Its language. -/
  language : String
  /-- The text of the part. -/
  content : String
  /-- The number of lines of the file. -/
  lineCount : Nat
  /-- The first line of the part. -/
  first : Nat
  /-- The last line of the part. -/
  last : Nat
deriving DecidableEq, Repr

/-- The first and the last line of a part. -/
def selectRange (f : FileRow) : FileSelector → Except Error (Nat × Nat)
  | .whole => .ok (1, f.lineCount)
  | .lines first last =>
    if first = 0 ∨ last < first then .error (.request (.badRange first last))
    else if f.lineCount < first then .error (.request (.pastEnd first f.path f.lineCount))
    else .ok (first, min last f.lineCount)
  | .function name =>
    match Store.findSymbol f name [] with
    | some y => .ok (y.first, y.last)
    | none =>
      match (Extract.declarations f.content f.language).find? fun d => d.name == name with
      | some d => .ok (d.first, d.last)
      | none => .error (.symbolNotFound name f.path)

/-- How to get the rest of a part that was cut. -/
def fileHint (selector : FileSelector) (first last budget : Nat) : String :=
  let cut := "Response truncated at " ++ toString budget ++ " tokens. "
  match selector with
  | .whole => cut ++ "Use startLine/endLine or function parameter to get specific sections."
  | _ => cut ++ "Request a narrower range within lines " ++ rangeText first last ++ "."

/-- A part of a stored file, cut to the budget. -/
def sliceOf (f : FileRow) (selector : FileSelector) (maxTokens : Nat) :
    Except Error (Envelope FileSlice) :=
  match selectRange f selector with
  | .error e => .error e
  | .ok (first, last) =>
    let start : Allocator := { budget := maxTokens }
    let (a, content) := start.takePrimary (linesOf f first last) (fileHint selector first last)
    .ok (a.finish
      { path := f.path
        language := f.language
        content := String.ofList content
        lineCount := f.lineCount
        first := first
        last := if a.truncated then first + Text.countLines content - 1 else last })

/-- A part of the file at a path, cut to the budget. -/
def fileQuery (s : Store) (repo : RepoId) (path : String) (selector : FileSelector)
    (maxTokens : Nat) : Except Error (Envelope FileSlice) :=
  match requireRepo s repo with
  | .error e => .error e
  | .ok row =>
    match requireFile s row path with
    | .error e => .error e
    | .ok f => sliceOf f selector maxTokens

/-- A part of a file as JSON. -/
def FileSlice.toJson (x : FileSlice) : Json :=
  .object [("path", .string x.path), ("language", .string x.language),
    ("content", .string x.content), ("lineCount", .nat x.lineCount), ("startLine", .nat x.first),
    ("endLine", .nat x.last)]

end ContextIndex.Query
