import ContextIndex.Query.Outline
import ContextIndex.Store.Like

/-!
# Search for symbols

The symbols of a repository whose name contains a text, whatever the case of ASCII letters.
-/

namespace ContextIndex.Query

/-- The most symbols of an answer unless told otherwise. -/
def defaultSearchLimit : Nat := 50

/-- A symbol that was found. -/
structure SymbolMatch where
  /-- The path of its file. -/
  path : String
  /-- The symbol. -/
  symbol : Symbol
deriving DecidableEq, Repr

/-- A symbol that was found, as JSON. -/
def SymbolMatch.toJson (x : SymbolMatch) : Json :=
  .object [("name", .string x.symbol.name), ("kind", .string x.symbol.kind.label),
    ("path", .string x.path), ("startLine", .nat x.symbol.first), ("endLine", .nat x.symbol.last),
    ("tokenCount", .nat x.symbol.tokens), ("signature", .ofText? x.symbol.signature)]

/-- Symbols that were found, as JSON. -/
def matchesJson (xs : List SymbolMatch) : Json :=
  .array (xs.map SymbolMatch.toJson)

/-- The symbols whose name contains a text, at most `limit`. -/
def searchQuery (s : Store) (repo : RepoId) (text : String) (kind : Option SymbolKind)
    (limit : Nat) : Except Error (Envelope (List SymbolMatch)) :=
  let query := Text.trimString text
  if query.isEmpty then .error (.request .emptySearch)
  else match requireRepo s repo with
    | .error e => .error e
    | .ok row =>
      match s.searchSymbols row.id query kind limit with
      | .error e => .error e
      | .ok found =>
        let xs := found.map fun (path, symbol) => ⟨path, symbol⟩
        .ok (.complete xs (jsonCost (matchesJson xs)))

end ContextIndex.Query
