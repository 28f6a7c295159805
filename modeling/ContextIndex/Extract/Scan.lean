import ContextIndex.Extract.Rules
import ContextIndex.Extract.Block
import ContextIndex.Extract.Filter
import ContextIndex.Extract.Layout

/-!
# Extraction by rules

Each rule of the language is matched over the whole text.  A match gives the declared name, its
line and the signature; the block scan gives the last line.
-/

namespace ContextIndex.Extract

/-- An extractor and its version.  The store keeps it with every file, so that symbols count as
derived from the content by this extractor. -/
structure Extractor where
  /-- Its name. -/
  name : String
  /-- Its version. -/
  version : Nat
deriving DecidableEq, Repr

/-- The tag kept in the store. -/
def Extractor.tag (e : Extractor) : String :=
  e.name ++ "@" ++ toString e.version

/-- The extractor of this module. -/
def byRules : Extractor := ⟨"regex", 1⟩

/-- The longest signature, in characters. -/
def maxSignature : Nat := 100

/-- The signature in the text of a match: on one line, without the opening brace, cut to
`maxSignature` characters. -/
def signatureOf (head : List Char) : List Char :=
  let bare := Text.trimEnd (((Text.trim head).reverse.dropWhile (· = '\x7b')).reverse)
  (Text.unwords (Text.words bare)).take maxSignature

/-- A signature is cut to its length. -/
theorem length_signatureOf_le (head : List Char) : (signatureOf head).length ≤ maxSignature := by
  simp only [signatureOf, List.length_take]
  exact Nat.min_le_left _ _

/-- The last line of the block of a name at an offset. -/
def blockEnd (style : BodyStyle) (ls : List (List Char)) (start column : Nat) : Nat :=
  match style with
  | .braces => braceBlockEnd ls start column
  | .indentation => indentedBlockEnd ls start

/-- The declaration a match stands for. -/
def declarationOf (style : BodyStyle) (t : Layout) (kind : SymbolKind) (m : Pattern.Match) :
    Declaration :=
  let spot := t.spotAt m.reach.nameStart
  { name := String.ofList (t.slice m.reach.nameStart m.reach.nameStop)
    kind := kind
    first := spot.line
    last := blockEnd style t.lines spot.line spot.column
    signature := some (String.ofList (signatureOf (t.slice m.start m.reach.stop))) }

/-- Every match of every rule, rule by rule. -/
def rawDeclarations (content language : String) : List Declaration :=
  match tableFor? language with
  | none => []
  | some table =>
    let text := content.toList
    let layout := Layout.ofText text
    table.rules.flatMap fun rule =>
      (rule.head.matches text).map (declarationOf table.body layout rule.kind)

/-- A declaration that is found stands for a match of a rule of the language. -/
theorem exists_match_of_mem {content language : String} {d : Declaration}
    (h : d ∈ rawDeclarations content language) : ∃ table rule m, tableFor? language = some table ∧
      rule ∈ table.rules ∧ m ∈ rule.head.matches content.toList ∧
      declarationOf table.body (.ofText content.toList) rule.kind m = d := by
  rw [rawDeclarations] at h
  cases htable : tableFor? language with
  | none => simp [htable] at h
  | some table =>
    simp only [htable, List.mem_flatMap, List.mem_map] at h
    obtain ⟨rule, hrule, m, hm, hd⟩ := h
    exact ⟨table, rule, m, rfl, hrule, hm, hd⟩

/-- The declarations of a file that the index keeps. -/
def declarations (content language : String) : List Declaration :=
  settle (rawDeclarations content language) (Text.countLines content.toList)

end ContextIndex.Extract
