import ContextIndex.Text.CharClass

/-!
# Languages

The extension of a path alone decides whether a file is worth indexing and which language it is
taken for.  The extension is what follows the last point of the last part of the path, in ASCII
lower case.
-/

namespace ContextIndex.Language

/-- The extensions that are indexed. -/
def indexableExtensions : List String :=
  ["c", "cpp", "cc", "cxx", "h", "hpp", "py", "js", "jsx", "ts", "tsx", "rs", "go", "java", "kt",
    "cs", "php", "rb", "swift", "scala", "sh"]

/-- The language of a file whose extension says nothing. -/
def fallback : String := "text"

/-- The last part of a text cut at every `sep`, and whether `sep` occurs. -/
def afterLast (sep : Char) (cs : List Char) : List Char × Bool :=
  ((cs.reverse.takeWhile (· ≠ sep)).reverse, cs.contains sep)

/-- The extension of a path, if its last part has a point with something behind it. -/
def extension? (path : String) : Option String :=
  let name := (afterLast '/' path.toList).1
  match afterLast '.' name with
  | (ext, true) => if ext.isEmpty then none else some (Text.asciiLower (String.ofList ext))
  | (_, false) => none

/-- Whether a file is indexed. -/
def isIndexable (path : String) : Bool :=
  match extension? path with
  | some ext => indexableExtensions.contains ext
  | none => false

/-- The language an extension stands for. -/
def ofExtension : String → String
  | "c" | "h" => "c"
  | "cpp" | "cc" | "cxx" | "hpp" => "cpp"
  | "py" => "python"
  | "js" | "jsx" => "javascript"
  | "ts" | "tsx" => "typescript"
  | "rs" => "rust"
  | "go" => "go"
  | "java" => "java"
  | "kt" => "kotlin"
  | "cs" => "csharp"
  | "php" => "php"
  | "rb" => "ruby"
  | "swift" => "swift"
  | "scala" => "scala"
  | "sh" => "bash"
  | "json" => "json"
  | "yaml" | "yml" => "yaml"
  | "toml" => "toml"
  | "md" => "markdown"
  | _ => fallback

/-- The language of a file. -/
def ofPath (path : String) : String :=
  match extension? path with
  | some ext => ofExtension ext
  | none => fallback

end ContextIndex.Language
