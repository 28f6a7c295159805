import ContextIndex.Text.CharClass

/-!
# Symbols

A symbol is something a file declares: a callable or a type.  Extractors report declarations; the
store keeps them as symbols with a token cost.  Lines are numbered from one and a range holds both
its ends.
-/

namespace ContextIndex

/-- The kinds of declaration the index knows. -/
inductive SymbolKind
  | function
  | method
  | classType
  | structType
  | interfaceType
  | aliasType
  | enumType
deriving DecidableEq, Repr, Inhabited

namespace SymbolKind

/-- Every kind. -/
def all : List SymbolKind :=
  [function, method, classType, structType, interfaceType, aliasType, enumType]

/-- The name of a kind in answers and in the store. -/
def label : SymbolKind → String
  | function => "function"
  | method => "method"
  | classType => "class"
  | structType => "struct"
  | interfaceType => "interface"
  | aliasType => "type"
  | enumType => "enum"

/-- The kind a lower-case word stands for. -/
def ofWord? : String → Option SymbolKind
  | "function" | "fn" | "func" | "def" => some function
  | "method" => some method
  | "class" => some classType
  | "struct" => some structType
  | "interface" | "trait" | "protocol" => some interfaceType
  | "type" | "typedef" => some aliasType
  | "enum" => some enumType
  | _ => none

/-- The kind a word stands for, whatever the case of its letters.  No character outside ASCII has
a lower-case form that occurs in one of the words, so ASCII case is enough. -/
def parse? (text : String) : Option SymbolKind :=
  ofWord? (Text.asciiLower text)

/-- The kinds that a body may refer to as a type. -/
def types : List SymbolKind :=
  [classType, structType, interfaceType, aliasType, enumType]

/-- The kinds that can be called. -/
def callables : List SymbolKind :=
  [function, method]

/-- Whether a declaration of this kind can be called. -/
def isCallable : SymbolKind → Bool
  | function | method => true
  | _ => false

/-- Whether a declaration of this kind may hold other declarations. -/
def isContainer : SymbolKind → Bool
  | classType | structType | interfaceType => true
  | _ => false

/-- The name of a kind is read as that kind. -/
theorem parse?_label (k : SymbolKind) : parse? k.label = some k := by
  cases k <;> decide +kernel

end SymbolKind

/-- A declaration as an extractor reports it. -/
structure Declaration where
  /-- The declared name. -/
  name : String
  /-- Its kind. -/
  kind : SymbolKind
  /-- The first line of its range. -/
  first : Nat
  /-- The last line of its range. -/
  last : Nat
  /-- The text of its head, if known. -/
  signature : Option String := none
  /-- The name of the innermost container around it, if known. -/
  parent : Option String := none
deriving DecidableEq, Repr, Inhabited

/-- Whether one range holds another and is not the same range. -/
def rangeEncloses (first last first' last' : Nat) : Bool :=
  first ≤ first' && last' ≤ last && !(first == first' && last == last')

/-- Whether the range of `d` holds the range of `e` and differs from it. -/
def Declaration.encloses (d e : Declaration) : Bool :=
  rangeEncloses d.first d.last e.first e.last

/-- A symbol of a stored file. -/
structure Symbol where
  /-- The declared name. -/
  name : String
  /-- Its kind. -/
  kind : SymbolKind
  /-- The first line of its range. -/
  first : Nat
  /-- The last line of its range. -/
  last : Nat
  /-- The text of its head, if known. -/
  signature : Option String
  /-- The token cost of its lines. -/
  tokens : Nat
  /-- The name of the innermost container around it, if known. -/
  parent : Option String
deriving DecidableEq, Repr, Inhabited

/-- The head of a symbol on one line: kind, name and, in brackets, its signature. -/
def describe (kind : SymbolKind) (name : String) (signature : Option String) : String :=
  match signature with
  | some s => kind.label ++ " " ++ name ++ " (" ++ s ++ ")"
  | none => kind.label ++ " " ++ name

end ContextIndex
