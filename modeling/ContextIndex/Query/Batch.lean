import ContextIndex.Json.Decode
import ContextIndex.Json.Shape
import ContextIndex.Query.Budget
import ContextIndex.Query.Lookup

/-!
# Batches of file parts

Several parts of files under one budget, in the order given.  A part that is not there or does not
fit has an error in its place, and the others go on.
-/

namespace ContextIndex.Query

/-- The most parts of a batch. -/
def maxBatch : Nat := 20

/-- The lines after the first one of a range without an end. -/
def openRangeSpan : Nat := 100

/-- A part asked for. -/
structure BatchItem where
  /-- Where the file is. -/
  path : String := ""
  /-- The first line. -/
  first : Option Nat := none
  /-- The last line. -/
  last : Option Nat := none
deriving DecidableEq, Repr

/-- The part asked for in JSON. -/
def BatchItem.ofJson? (v : Json) : Option BatchItem := do
  match ← v.slots? ["path", "startLine", "endLine"] with
  | [path, first, last] =>
    return { path := ← path.withDefault "" Json.text?
             first := ← first.optionalOrMissing Json.word?
             last := ← last.optionalOrMissing Json.word? }
  | _ => none

/-- The parts asked for in JSON. -/
def batchItems? (v : Json) : Option (List BatchItem) :=
  Json.list? BatchItem.ofJson? v

/-- The shape of a part asked for. -/
def BatchItem.shape : Json.Shape :=
  .record "struct BatchItem"
    [{ name := "path", shape := .text },
     { name := "startLine", shape := .optional .quantity },
     { name := "endLine", shape := .optional .quantity }]

/-- The parts that a text asks for. -/
def readBatch (requests : String) : Except Json.Misreading (List BatchItem) :=
  match (Json.parse? requests).bind batchItems? with
  | some items => .ok items
  | none => .error ((Json.Shape.list BatchItem.shape).misreading requests)

/-- A part as it is answered. -/
structure BatchEntry where
  /-- Where the file is. -/
  path : String
  /-- The text of the part. -/
  content : String := ""
  /-- The language of the file. -/
  language : String := ""
  /-- The number of lines of the file. -/
  lineCount : Nat := 0
  /-- The first line of the part. -/
  first : Nat := 0
  /-- The last line of the part. -/
  last : Nat := 0
  /-- Why there is no part. -/
  error : Option String := none
deriving DecidableEq, Repr

/-- A batch as it is answered. -/
structure BatchResult where
  /-- The parts, in the order asked for. -/
  entries : List BatchEntry
  /-- The tokens spent. -/
  totalTokens : Nat
deriving DecidableEq, Repr

/-- A part that is not answered. -/
def BatchEntry.failed (path error : String) : BatchEntry :=
  { path, error := some error }

/-- The first and the last line of a part.  The end of a range without one may be out of bounds of
64 bits. -/
def BatchItem.range (item : BatchItem) (lineCount : Nat) : Except Error (Nat × Nat) :=
  match item.first, item.last with
  | some first, some last => .ok (first, min last lineCount)
  | some first, none =>
    match addWord? first openRangeSpan with
    | some last => .ok (first, min last lineCount)
    | none => .error .overflow
  | none, _ => .ok (1, lineCount)

/-- What is answered for a part of a file, given the budget so far: the part, the budget after it,
and whether the part was left out because it did not fit. -/
def serveFile (f : FileRow) (item : BatchItem) (a : Allocator) :
    Except Error (BatchEntry × Allocator × Bool) :=
  match item.range f.lineCount with
  | .error e => .error e
  | .ok (first, last) =>
    if first = 0 ∨ last < first then
      .ok (.failed item.path (badRangeText first last), a, false)
    else
      let content := linesOf f first last
      let cost := Token.estimate content
      match a.trySpend cost with
      | some a =>
        .ok ({ path := f.path, content := String.ofList content, language := f.language,
               lineCount := f.lineCount, first, last }, a, false)
      | none =>
        match addWord? a.spent cost with
        | some total =>
          .ok (.failed item.path ("Skipped: token budget exceeded (" ++ toString total ++ " > " ++
            toString a.budget ++ ")"), a, true)
        | none => .error .overflow

/-- What is answered for a part, given the budget so far. -/
def serve (s : Store) (repo : RepoRow) (item : BatchItem) (a : Allocator) :
    Except Error (BatchEntry × Allocator × Bool) :=
  if item.path.isEmpty then .ok (.failed "" "path is required", a, false)
  else match s.file? repo.id item.path with
    | none => .ok (.failed item.path "File not found", a, false)
    | some f => serveFile f item a

/-- What is answered for parts in order, the budget after them, and how many did not fit. -/
def serveAll (s : Store) (repo : RepoRow) :
    List BatchItem → Allocator → Except Error (List BatchEntry × Allocator × Nat)
  | [], a => .ok ([], a, 0)
  | item :: items, a =>
    match serve s repo item a with
    | .error e => .error e
    | .ok (entry, a, skipped) =>
      match serveAll s repo items a with
      | .error e => .error e
      | .ok (entries, a, count) => .ok (entry :: entries, a, count + skipped.toNat)

/-- How to get the parts that did not fit. -/
def batchHint (skipped : Nat) : String :=
  toString skipped ++ " request(s) skipped for budget. Request them separately or raise maxTokens."

/-- Several parts of files under one budget. -/
def batchQuery (s : Store) (repo : RepoId) (items : List BatchItem) (maxTokens : Nat) :
    Except Error (Envelope BatchResult) :=
  if items.isEmpty then .error (.request .emptyBatch)
  else if maxBatch < items.length then .error (.request (.oversizedBatch maxBatch))
  else match requireRepo s repo with
    | .error e => .error e
    | .ok row =>
      match serveAll s row items { budget := maxTokens } with
      | .error e => .error e
      | .ok (entries, a, skipped) =>
        let a := if skipped = 0 then a else a.markTruncated (batchHint skipped)
        .ok (a.finish ⟨entries, a.spent⟩)

/-- A part as JSON. -/
def BatchEntry.toJson (x : BatchEntry) : Json :=
  .object ([("path", .string x.path), ("content", .string x.content),
    ("language", .string x.language), ("lineCount", .nat x.lineCount), ("startLine", .nat x.first),
    ("endLine", .nat x.last)] ++
    match x.error with
    | some e => [("error", .string e)]
    | none => [])

/-- A batch as JSON. -/
def BatchResult.toJson (x : BatchResult) : Json :=
  .object [("results", .array (x.entries.map BatchEntry.toJson)), ("totalTokens", .nat x.totalTokens)]

end ContextIndex.Query
