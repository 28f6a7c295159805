import ContextIndex.Json.Printer
import ContextIndex.Query.Lookup

/-!
# The outline of a file

The symbols of a file, nested by their containers.  The symbols come in the order of their first
lines; a container stays open until a symbol starts after its last line, and while it is open what
comes goes inside it.
-/

namespace ContextIndex.Query

/-- A symbol and the symbols inside it. -/
inductive OutlineNode
  | node (symbol : Symbol) (children : List OutlineNode)
deriving Repr, Inhabited

/-- A container that is open, with the nodes inside it so far. -/
structure OpenContainer where
  /-- The container. -/
  symbol : Symbol
  /-- The nodes inside it. -/
  children : List OutlineNode

/-- The node of a container that is closed. -/
def OpenContainer.close (o : OpenContainer) : OutlineNode :=
  .node o.symbol o.children

/-- An outline that is being built: the open containers, the innermost first, and the nodes outside
any container. -/
structure Outliner where
  /-- The open containers. -/
  stack : List OpenContainer := []
  /-- The finished nodes at the top. -/
  roots : List OutlineNode := []

namespace Outliner

/-- A finished node put into the innermost open container. -/
def attach (o : Outliner) (n : OutlineNode) : Outliner :=
  match o.stack with
  | [] => { o with roots := o.roots ++ [n] }
  | top :: rest => { o with stack := { top with children := top.children ++ [n] } :: rest }

/-- Closes the innermost containers for which `done` holds, down to the first for which it does
not. -/
def closeWhile (done : OpenContainer → Bool) (roots : List OutlineNode) :
    List OpenContainer → Outliner
  | [] => ⟨[], roots⟩
  | [top] => if done top then ⟨[], roots ++ [top.close]⟩ else ⟨[top], roots⟩
  | top :: next :: rest =>
    if done top then
      closeWhile done roots ({ next with children := next.children ++ [top.close] } :: rest)
    else ⟨top :: next :: rest, roots⟩
termination_by stack => stack.length

/-- The outline with one more symbol. -/
def add (o : Outliner) (y : Symbol) : Outliner :=
  let o := closeWhile (fun c => decide (c.symbol.last < y.first)) o.roots o.stack
  if y.kind.isContainer then { o with stack := ⟨y, []⟩ :: o.stack }
  else o.attach (.node y [])

/-- The finished outline. -/
def close (o : Outliner) : List OutlineNode :=
  (closeWhile (fun _ => true) o.roots o.stack).roots

end Outliner

/-- The outline of symbols. -/
def buildOutline (symbols : List Symbol) : List OutlineNode :=
  (symbols.foldl Outliner.add {}).close

/-- How many symbols of each sort a file has. -/
structure OutlineStats where
  /-- All symbols. -/
  symbols : Nat
  /-- Functions and methods. -/
  functions : Nat
  /-- Classes. -/
  classes : Nat
  /-- Structs. -/
  structs : Nat
  /-- Aliases, interfaces and enums. -/
  types : Nat
  /-- The token costs of the symbols together. -/
  tokens : Nat
deriving DecidableEq, Repr

/-- How many symbols of each sort there are. -/
def statsOf (symbols : List Symbol) : OutlineStats :=
  let count (kinds : List SymbolKind) : Nat := symbols.countP fun y => kinds.contains y.kind
  { symbols := symbols.length
    functions := count [.function, .method]
    classes := count [.classType]
    structs := count [.structType]
    types := count [.aliasType, .interfaceType, .enumType]
    tokens := total (symbols.map Symbol.tokens) }

/-- The outline of a file. -/
structure FileOutline where
  /-- Where the file is. -/
  path : String
  /-- Its language. -/
  language : String
  /-- The number of its lines. -/
  lineCount : Nat
  /-- The token cost of the whole file. -/
  tokens : Nat
  /-- How many symbols of each sort it has. -/
  stats : OutlineStats
  /-- Its symbols, nested. -/
  outline : List OutlineNode
deriving Repr

/-! ## As JSON -/

/-- The fields of a node but its children. -/
def nodeFields (y : Symbol) : List (String × Json) :=
  [("name", .string y.name), ("kind", .string y.kind.label), ("startLine", .nat y.first),
    ("endLine", .nat y.last), ("tokenCount", .nat y.tokens)] ++
    match y.signature with
    | some s => [("signature", .string s)]
    | none => []

mutual

/-- A node as JSON. -/
def OutlineNode.toJson : OutlineNode → Json
  | .node y [] => .object (nodeFields y)
  | .node y (c :: cs) => .object (nodeFields y ++ [("children", .array (c.toJson :: nodesJson cs))])

/-- Nodes as JSON. -/
def nodesJson : List OutlineNode → List Json
  | [] => []
  | n :: ns => n.toJson :: nodesJson ns

end

/-- An outline as JSON. -/
def FileOutline.toJson (x : FileOutline) : Json :=
  .object [("path", .string x.path), ("language", .string x.language),
    ("lineCount", .nat x.lineCount), ("totalTokens", .nat x.tokens),
    ("stats", .object [("totalSymbols", .nat x.stats.symbols),
      ("functions", .nat x.stats.functions), ("classes", .nat x.stats.classes),
      ("structs", .nat x.stats.structs), ("types", .nat x.stats.types),
      ("totalTokens", .nat x.stats.tokens)]),
    ("outline", .array (nodesJson x.outline))]

/-- The cost of an answer: that of its JSON text without white space. -/
def jsonCost (v : Json) : Nat :=
  Token.estimate v.compactChars

/-- The outline of the file at a path. -/
def outlineQuery (s : Store) (repo : RepoId) (path : String) :
    Except Error (Envelope FileOutline) :=
  match requireRepo s repo with
  | .error e => .error e
  | .ok row =>
    match requireFile s row path with
    | .error e => .error e
    | .ok f =>
      let symbols := Store.sortedSymbols f
      let x : FileOutline :=
        ⟨f.path, f.language, f.lineCount, f.tokens, statsOf symbols, buildOutline symbols⟩
      .ok (.complete x (jsonCost x.toJson))

end ContextIndex.Query
