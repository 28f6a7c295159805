import ContextIndex.Pattern
import ContextIndex.Symbol

/-!
# Declaration rules

Every language has a short table of rules.  A rule is a pattern for the head of a declaration and
the kind it declares.  The table also says how bodies are delimited: by braces or by indentation.
A programming language without a table of its own uses the one for JavaScript; languages that
declare nothing have no table.
-/

namespace ContextIndex.Extract

open Pattern

/-- How the body of a declaration is delimited. -/
inductive BodyStyle
  | braces
  | indentation
deriving DecidableEq, Repr

/-- A pattern and the kind it declares. -/
structure Rule where
  /-- The head of the declaration. -/
  head : Pattern
  /-- The kind declared. -/
  kind : SymbolKind

/-- The rules of a language. -/
structure RuleTable where
  /-- How bodies are delimited. -/
  body : BodyStyle
  /-- The rules, in the order in which they report. -/
  rules : List Rule

/-! ## Vocabulary -/

/-- Any white space. -/
def gap : Pattern := many .space

/-- At least one white space. -/
def gap₁ : Pattern := some .space

/-- Any blanks and tabs. -/
def blanks : Pattern := many (.oneOf [' ', '\t'])

/-- At least one blank or tab. -/
def blanks₁ : Pattern := some (.oneOf [' ', '\t'])

/-- A word. -/
def word : Pattern := some .word

/-- The declared name, a word. -/
def name : Pattern := all [nameStart, word, nameStop]

/-- One of these characters. -/
def oneOf (s : String) : Pattern := one (.oneOf s.toList)

/-- Brackets around anything but a closing one. -/
def arguments : Pattern := all [char '(', many (.noneOf [')']), char ')']

/-- A keyword that starts a word, and the name after it. -/
def keyword (s : String) : Pattern := all [edge, text s, gap₁, name]

/-- Text that white space follows, or nothing. -/
def maybeWord (s : String) : Pattern := maybe (all [text s, gap₁])

/-! ## Tables -/

/-- Rules for C. -/
def cRules : List Rule :=
  [⟨all [lineStart, some (.either (.either .space .word) (.oneOf ['*'])), gap₁, name, gap,
      arguments, gap, char '\x7b'], .function⟩,
    ⟨all [edge, text "typedef", gap₁, text "struct", gap₁, name], .structType⟩,
    ⟨all [keyword "struct", gap, char '\x7b'], .structType⟩]

/-- Rules for C++. -/
def cppRules : List Rule :=
  [⟨all [lineStart, some (.either (.either .word .space) (.oneOf ['*', '&', ':', '<', '>', ','])),
      gap₁, name, gap, arguments, gap, maybe (all [text "const", gap]), char '\x7b'], .function⟩,
    ⟨keyword "class", .classType⟩,
    ⟨keyword "struct", .structType⟩,
    ⟨all [edge, text "enum", gap₁, maybeWord "class", name], .enumType⟩]

/-- Rules for Python. -/
def pythonRules : List Rule :=
  [⟨all [lineStart, blanks, maybe (all [text "async", blanks₁]), text "def", blanks₁, name, blanks,
      char '('], .function⟩,
    ⟨all [lineStart, blanks, text "class", blanks₁, name], .classType⟩]

/-- A variable that is given a function, up to its argument list. -/
def boundFunction : Pattern :=
  all [edge, any [text "const", text "let", text "var"], gap₁, name, gap, char '=', gap,
    maybeWord "async", arguments, gap]

/-- The keyword of a function, with or without the star of a generator, and the name. -/
def namedFunction : Pattern :=
  all [edge, text "function", gap, maybe (char '*'), gap₁, name, gap]

/-- Rules for JavaScript. -/
def javascriptRules : List Rule :=
  [⟨all [namedFunction, char '('], .function⟩,
    ⟨all [boundFunction, text "=>"], .function⟩,
    ⟨all [name, gap, arguments, gap, char '\x7b'], .function⟩,
    ⟨keyword "class", .classType⟩]

/-- A name for a type, with or without parameters, up to the equals sign. -/
def namedType : Pattern :=
  all [keyword "type", gap, maybe (all [char '<', many (.noneOf ['>']), char '>']), gap, char '=']

/-- Rules for TypeScript. -/
def typescriptRules : List Rule :=
  [⟨all [namedFunction, oneOf "<("], .function⟩,
    ⟨all [boundFunction, any [char ':', text "=>"]], .function⟩,
    ⟨all [name, gap, arguments, gap, one (.oneOf [':', '\x7b'])], .function⟩,
    ⟨keyword "interface", .interfaceType⟩,
    ⟨keyword "class", .classType⟩,
    ⟨namedType, .aliasType⟩,
    ⟨keyword "enum", .enumType⟩]

/-- Rules for Rust. -/
def rustRules : List Rule :=
  [⟨all [keyword "fn", gap, oneOf "<("], .function⟩,
    ⟨keyword "struct", .structType⟩,
    ⟨keyword "enum", .enumType⟩,
    ⟨keyword "trait", .interfaceType⟩,
    ⟨namedType, .aliasType⟩]

/-- Rules for Go. -/
def goRules : List Rule :=
  [⟨all [edge, text "func", gap₁,
      maybe (all [char '(', word, gap₁, maybe (char '*'), word, char ')', gap₁]), name, gap,
      oneOf "[("], .function⟩,
    ⟨all [keyword "type", gap₁, text "interface", edge], .interfaceType⟩,
    ⟨all [keyword "type", gap₁, text "struct", edge], .structType⟩]

/-- Rules for Java. -/
def javaRules : List Rule :=
  [⟨all [edge, maybeWord "public", text "class", gap₁, name], .classType⟩,
    ⟨keyword "interface", .interfaceType⟩,
    ⟨keyword "enum", .enumType⟩,
    ⟨all [maybe (any [text "public", text "private", text "protected"]), gap, maybeWord "static",
      word, gap₁, name, gap, char '('], .function⟩]

/-- The languages that declare nothing. -/
def proseLanguages : List String :=
  ["text", "json", "yaml", "toml", "markdown"]

/-- Whether anything can be extracted from a language. -/
def supports (language : String) : Bool :=
  !proseLanguages.contains language

/-- The table of a language that declares something. -/
def codeTable : String → RuleTable
  | "c" => ⟨.braces, cRules⟩
  | "cpp" => ⟨.braces, cppRules⟩
  | "python" => ⟨.indentation, pythonRules⟩
  | "typescript" => ⟨.braces, typescriptRules⟩
  | "rust" => ⟨.braces, rustRules⟩
  | "go" => ⟨.braces, goRules⟩
  | "java" => ⟨.braces, javaRules⟩
  | _ => ⟨.braces, javascriptRules⟩

/-- The table of a language, if it has one. -/
def tableFor? (language : String) : Option RuleTable :=
  if supports language then Option.some (codeTable language) else none

end ContextIndex.Extract
