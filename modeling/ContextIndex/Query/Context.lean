import ContextIndex.Query.Budget
import ContextIndex.Query.Candidate
import ContextIndex.Query.Lookup

/-!
# The context of a symbol

The source of a symbol, then the types of the same file that it mentions, then the signatures of
functions of the same file that it calls, as far as the budget goes.
-/

namespace ContextIndex.Query

/-- The tokens of a context unless told otherwise. -/
def contextBudget : Nat := 10000

/-- The symbol asked for. -/
structure ContextTarget where
  /-- Its name. -/
  name : String
  /-- Its kind. -/
  kind : SymbolKind
  /-- Its source, or the beginning that fits. -/
  content : String
  /-- Its first line. -/
  first : Nat
  /-- Its last line. -/
  last : Nat
deriving DecidableEq, Repr

/-- A type that the symbol mentions. -/
structure ReferencedType where
  /-- Its name. -/
  name : String
  /-- Its kind. -/
  kind : SymbolKind
  /-- Its source. -/
  content : String
deriving DecidableEq, Repr

/-- A function that the symbol calls. -/
structure CalledFunction where
  /-- Its name. -/
  name : String
  /-- The path of its file. -/
  path : String
  /-- Its signature. -/
  signature : Option String
deriving DecidableEq, Repr

/-- A symbol in its context. -/
structure SymbolContext where
  /-- The symbol. -/
  target : ContextTarget
  /-- Types that it mentions. -/
  types : List ReferencedType
  /-- Functions that it calls. -/
  callees : List CalledFunction
deriving DecidableEq, Repr

/-- How to get the rest of a symbol that was cut. -/
def contextHint (y : Symbol) (budget : Nat) : String :=
  "Symbol truncated at " ++ toString budget ++ " tokens. Use the file query with startLine=" ++
    toString y.first ++ " endLine=" ++ toString y.last ++ " to read it in parts."

/-- The type of a name in a file, with the cost of its source. -/
def resolveType (f : FileRow) (name : String) : Option (Nat × ReferencedType) :=
  (Store.findSymbol f name SymbolKind.types).map fun y =>
    let body := linesOf f y.first y.last
    (Token.estimate body, ⟨y.name, y.kind, String.ofList body⟩)

/-- The function of a name in a file, at the flat cost of a signature. -/
def resolveCallee (f : FileRow) (name : String) : Option (Nat × CalledFunction) :=
  (Store.findSymbol f name SymbolKind.callables).map fun y =>
    (signatureCost, ⟨y.name, f.path, y.signature⟩)

/-- A look at a candidate that cannot fail. -/
def neverFails {C T : Type} (resolve : C → Option (Nat × T)) (c : C) :
    Except Empty (Option (Nat × T)) :=
  .ok (resolve c)

/-- A tier whose candidates cannot fail. -/
def fillSurely {C T : Type} (tier : Tier) (resolve : C → Option (Nat × T)) (a : Allocator)
    (candidates : List C) : Allocator × List T :=
  let filled := Allocator.fillTier tier (neverFails resolve) a candidates
  (filled.allocator, filled.taken)

/-- A symbol of a file in its context. -/
def contextOf (f : FileRow) (y : Symbol) (name : String) (budget : Nat) : Envelope SymbolContext :=
  let source := linesOf f y.first y.last
  let text := String.ofList source
  let start : Allocator := { budget }
  let (a, content) := start.takePrimary source (contextHint y)
  let (a, types) := fillSurely .secondary (resolveType f) a (referencedTypeNames text name)
  let (a, callees) := fillSurely .tertiary (resolveCallee f) a (calleeNames text name)
  a.finish ⟨⟨y.name, y.kind, String.ofList content, y.first, y.last⟩, types, callees⟩

/-- The first symbol of a name in a file, in its context. -/
def contextQuery (s : Store) (repo : RepoId) (path name : String) (budget : Nat) :
    Except Error (Envelope SymbolContext) :=
  match requireRepo s repo with
  | .error e => .error e
  | .ok row =>
    match requireFile s row path with
    | .error e => .error e
    | .ok f =>
      match Store.findSymbol f name [] with
      | none => .error (.symbolNotFound name path)
      | some y => .ok (contextOf f y name budget)

/-- A context as JSON. -/
def SymbolContext.toJson (x : SymbolContext) : Json :=
  .object [
    ("target", .object [("name", .string x.target.name), ("kind", .string x.target.kind.label),
      ("content", .string x.target.content), ("startLine", .nat x.target.first),
      ("endLine", .nat x.target.last)]),
    ("referencedTypes", .array (x.types.map fun t => .object [("name", .string t.name),
      ("kind", .string t.kind.label), ("content", .string t.content)])),
    ("calledFunctions", .array (x.callees.map fun c => .object [("name", .string c.name),
      ("path", .string c.path), ("signature", .ofText? c.signature)]))]

end ContextIndex.Query
