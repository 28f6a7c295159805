import ContextIndex.Json.Value

/-!
# Answers to queries

Every query answers with its data, the tokens spent on it, whether anything was cut off and, if so,
a hint how to get the rest.
-/

namespace ContextIndex.Query

/-- An answer and its accounting. -/
structure Envelope (α : Type) where
  /-- What was asked for. -/
  data : α
  /-- The tokens spent. -/
  totalTokens : Nat
  /-- Whether anything was cut off. -/
  truncated : Bool
  /-- How to get the rest. -/
  hint : Option String
deriving Repr

/-- An answer from which nothing is cut off. -/
def Envelope.complete {α : Type} (data : α) (totalTokens : Nat) : Envelope α :=
  ⟨data, totalTokens, false, none⟩

/-- The accounting as JSON, without a hint if there is none. -/
def Envelope.metaJson {α : Type} (e : Envelope α) : Json :=
  .object ([("total_tokens", .nat e.totalTokens), ("truncated", .bool e.truncated)] ++
    match e.hint with
    | some h => [("hint", .string h)]
    | none => [])

/-- An answer as JSON. -/
def Envelope.toJson {α : Type} (render : α → Json) (e : Envelope α) : Json :=
  .object [("data", render e.data), ("_meta", e.metaJson)]

end ContextIndex.Query
