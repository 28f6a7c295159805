import ContextIndex.Command.App
import ContextIndex.Query.Batch
import ContextIndex.Query.Context
import ContextIndex.Query.Diff
import ContextIndex.Query.File
import ContextIndex.Query.Search

/-!
# Commands that ask the index

The context of a symbol, parts of files, outlines, searches and changes.
-/

namespace ContextIndex.Command.App

variable (a : App)

/-- The lines of a symbol in its context. -/
def contextLines (path : String) (x : Query.Envelope Query.SymbolContext) : List Line :=
  let target := x.data.target
  let title := target.kind.label ++ " " ++ target.name ++ " (" ++ path ++ ":" ++
    rangeText target.first target.last ++ ")"
  [Screen.header a.colored title, .out target.content] ++
  x.data.types.flatMap (fun t =>
    Screen.heading a.colored (" " ++ t.kind.label ++ " " ++ t.name ++ " ") ++ [.out t.content]) ++
  (if x.data.callees.isEmpty then [] else
    Screen.heading a.colored " calls " ++ x.data.callees.map fun c =>
      .out (Sign.diamond ++ " " ++ c.signature.getD c.name)) ++
  a.metaLines x

/-- Shows a symbol in its context. -/
def context (repo path name : String) (budget : Option Nat) : Answer :=
  a.queryAnswer "context" Query.SymbolContext.toJson (a.contextLines path) (do
    Query.contextQuery a.store (← repoOf repo) path name (budget.getD a.config.budget.context))

/-- The lines of a part of a file. -/
def fileLines (x : Query.Envelope Query.FileSlice) : List Line :=
  let s := x.data
  let title := s.path ++ " [" ++ s.language ++ "] lines " ++ rangeText s.first s.last ++ " of " ++
    toString s.lineCount
  [Screen.header a.colored title, .out s.content] ++ a.metaLines x

/-- Shows a part of a file. -/
def file (repo path : String) (part : Query.FileSelector) (maxTokens : Option Nat) : Answer :=
  a.queryAnswer "file" Query.FileSlice.toJson a.fileLines (do
    Query.fileQuery a.store (← repoOf repo) path part
      (maxTokens.getD a.config.budget.maxTokens))

/-- The lines of a part in a batch. -/
def batchEntryLines (x : Query.BatchEntry) : List Line :=
  match x.error with
  | some e => [Screen.warning a.colored (x.path ++ ": " ++ e)]
  | none =>
    Screen.heading a.colored (" " ++ x.path ++ ":" ++ rangeText x.first x.last ++ " ") ++
      [.out x.content]

/-- The lines of a batch. -/
def batchLines (x : Query.Envelope Query.BatchResult) : List Line :=
  x.data.entries.flatMap a.batchEntryLines ++ a.metaLines x

/-- The message for a file that does not list parts of files. -/
def badBatchText : String :=
  "requests must be a JSON array of \x7bpath, startLine?, endLine?\x7d"

/-- Shows the parts of files that a text lists. -/
def batch (repo requests : String) (maxTokens : Option Nat) : Answer :=
  match Query.readBatch requests with
  | .error why => .failed (badBatchText ++ ": " ++ why.message)
  | .ok items =>
    a.queryAnswer "batch" Query.BatchResult.toJson a.batchLines (do
      Query.batchQuery a.store (← repoOf repo) items
        (maxTokens.getD a.config.budget.maxTokens))

mutual

/-- The lines of a node of an outline, at a depth. -/
def nodeLines (a : App) (depth : Nat) : Query.OutlineNode → List Line
  | .node y children =>
    .out (String.ofList (List.replicate (2 * depth) ' ') ++ Sign.diamond ++ " " ++ y.kind.label ++
      " " ++ y.name ++ " " ++
      Screen.muted a.colored ("L" ++ rangeText y.first y.last ++ " ~" ++ toString y.tokens ++ "t")) ::
    nodesLines a (depth + 1) children

/-- The lines of nodes. -/
def nodesLines (a : App) (depth : Nat) : List Query.OutlineNode → List Line
  | [] => []
  | n :: ns => nodeLines a depth n ++ nodesLines a depth ns

end

/-- The lines of an outline. -/
def outlineLines (x : Query.Envelope Query.FileOutline) : List Line :=
  let o := x.data
  let title := o.path ++ " [" ++ o.language ++ "] " ++ toString o.lineCount ++ " lines, ~" ++
    toString o.tokens ++ " tokens"
  let counts := toString o.stats.symbols ++ " (" ++ toString o.stats.functions ++ " functions, " ++
    toString o.stats.classes ++ " classes, " ++ toString o.stats.structs ++ " structs, " ++
    toString o.stats.types ++ " types)"
  [Screen.header a.colored title] ++ nodesLines a 0 o.outline ++
    [.out "", Screen.row a.colored "Symbols:" counts]

/-- Shows the symbols of a file. -/
def outline (repo path : String) : Answer :=
  a.queryAnswer "outline" Query.FileOutline.toJson a.outlineLines (do
    Query.outlineQuery a.store (← repoOf repo) path)

/-- The line of a symbol that was found. -/
def matchLine (x : Query.SymbolMatch) : Line :=
  .out (Sign.diamond ++ " " ++ x.symbol.kind.label ++ " " ++ x.symbol.name ++ " " ++
    Screen.muted a.colored (x.path ++ ":" ++ rangeText x.symbol.first x.symbol.last ++ " ~" ++
      toString x.symbol.tokens ++ "t"))

/-- The lines of symbols that were found. -/
def searchLines (query : String) (x : Query.Envelope (List Query.SymbolMatch)) : List Line :=
  Screen.header a.colored (toString x.data.length ++ " symbols matching \"" ++ query ++ "\"") ::
    x.data.map a.matchLine ++ a.metaLines x

/-- The message for a word that names no kind of symbol. -/
def unknownKindText (word : String) : String :=
  "unknown symbol kind '" ++ word ++ "' (expected one of: " ++
    String.intercalate ", " (SymbolKind.all.map SymbolKind.label) ++ ")"

/-- The kind that a word names, if there is a word. -/
def kindOf : Option String → Except String (Option SymbolKind)
  | none => .ok none
  | some word =>
    match SymbolKind.parse? word with
    | some k => .ok (some k)
    | none => .error (unknownKindText word)

/-- Searches for symbols. -/
def search (repo query : String) (kind : Option String) (limit : Nat) : Answer :=
  match kindOf kind with
  | .error message => .failed message
  | .ok kind =>
    a.queryAnswer "search" Query.matchesJson (a.searchLines query) (do
      Query.searchQuery a.store (← repoOf repo) query kind limit)

/-- The first line of a text, without the carriage return that belongs to its line break. -/
def firstLine (text : String) : String :=
  match text.toList.span (· ≠ '\n') with
  | (line, []) => String.ofList line
  | (line, _) => String.ofList (if line.getLast? = some '\r' then line.dropLast else line)

/-- The lines of what changed. -/
def diffLines (repo : RepoId) (x : Query.Envelope Query.DiffReport) : List Line :=
  let r := x.data
  let title := Screen.header a.colored (repo.fullName ++ " since " ++ r.since)
  if r.commits.isEmpty then [title, Screen.success a.colored "No new commits"]
  else
    title :: r.commits.map (fun c =>
      .out ("  " ++ Screen.muted a.colored c.sha ++ " " ++ firstLine c.message)) ++
    Screen.heading a.colored " changed files " ++
    r.changedFiles.map fun p => .out (Sign.file ++ " " ++ p)

/-- Shows what changed since a revision. -/
def diff (repo : String) (since branch : Option String) : Answer :=
  match repoOf repo with
  | .error e => .ofError e
  | .ok repo =>
    a.queryAnswer "diff" Query.DiffReport.toJson (a.diffLines repo)
      (Query.diffReport a.store a.service repo (branch.getD a.config.host.branch) since ()).1

end ContextIndex.Command.App
