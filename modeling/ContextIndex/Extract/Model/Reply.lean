import ContextIndex.Extract.Layout
import ContextIndex.Json.Decode
import ContextIndex.Json.Parser
import ContextIndex.Pattern
import ContextIndex.Symbol

/-!
# What a language model replies

The reply should be a list of symbols in JSON, and may wrap it in a fence of three backticks with
words around it.  Nothing else in the reply is looked at.  An entry without a name, a known kind or
a first line is dropped; one with a field of another type spoils the whole list.
-/

namespace ContextIndex.Extract.Model

open Json (slots? text? word? list?)

/-! ## The reply to a chat -/

/-- The content of a message. -/
def messageContent? (v : Json) : Option (Option String) := do
  match ← slots? ["content"] v with
  | [content] => content.optional text?
  | _ => none

/-- The content of one of the choices. -/
def choice? (v : Json) : Option (Option String) := do
  match ← slots? ["message"] v with
  | [message] => message.required messageContent?
  | _ => none

/-- The text that a completed chat holds: the content of its first choice. -/
def completion? (v : Json) : Option String := do
  match ← slots? ["choices"] v with
  | [choices] => (← choices.required (list? choice?)).head?.join
  | _ => none

/-! ## Fences -/

/-- Three backticks, the name of the language if it is there, white space and, as the name that is
marked, what stands before the next three backticks and a line break right before them. -/
def fence : Pattern :=
  .all [.text "```", .maybe (.text "json"), .many .space, .maybe (.char '\n'), .nameStart,
    .few (.noneOf []), .nameStop, .maybe (.char '\n'), .text "```"]

/-- What the first fence of a text holds. -/
def fenced? (cs : List Char) : Option (List Char) :=
  (fence.matches cs).head?.map fun m =>
    (Layout.ofText cs).slice m.reach.nameStart m.reach.nameStop

/-! ## Symbols -/

/-- An entry of the list, as it stands there. -/
structure Entry where
  name : Option String
  kind : Option String
  first : Option Nat
  last : Option Nat
  signature : Option String
deriving DecidableEq, Repr

/-- An entry of the list. -/
def entry? (v : Json) : Option Entry := do
  match ← slots? ["name", "kind", "startLine", "endLine", "signature"] v with
  | [name, kind, first, last, signature] =>
    return ⟨← name.optional text?, ← kind.optional text?, ← first.optional word?,
      ← last.optional word?, ← signature.optional text?⟩
  | _ => none

/-- The entries of a list of symbols. -/
def entries? (v : Json) : Option (List Entry) := do
  match ← slots? ["symbols"] v with
  | [symbols] => symbols.withDefault [] (list? entry?)
  | _ => none

/-- The declaration that an entry stands for.  Its last line is never before its first. -/
def Entry.declaration? (e : Entry) : Option Declaration := do
  let name ← e.name
  let kind ← SymbolKind.parse? (← e.kind)
  let first ← e.first
  return {
    name := name
    kind := kind
    first := first
    last := max (e.last.getD first) first
    signature := e.signature.filter (· ≠ "") }

/-- The entries that a text lists, if it is JSON and nothing else. -/
def entriesOf? (cs : List Char) : Option (List Entry) :=
  (Json.parseChars? cs).bind entries?

/-- The entries that a reply lists, as it stands or else in its first fence. -/
def listed? (reply : List Char) : Option (List Entry) :=
  (entriesOf? (Text.trim reply)).or ((fenced? reply).bind entriesOf?)

/-- The declarations in a reply. -/
def declarationsIn (reply : List Char) : List Declaration :=
  ((listed? reply).getD []).filterMap Entry.declaration?

end ContextIndex.Extract.Model
