import ContextIndex.Extract.Filter
import ContextIndex.Extract.Model.Prompt
import ContextIndex.Extract.Model.Reply
import ContextIndex.Extract.Scan

/-!
# Extraction by a language model

The model is free to reply what it likes, so whatever it declares goes through the same filter as
what the rules find.  If it cannot be asked or does not answer, the file has no declarations.
-/

namespace ContextIndex.Extract.Model

/-- The extractor of this module. -/
def extractor : Extractor := ⟨"llm", 1⟩

/-- The text that the model answers with. -/
def complete? (t : Http.Transport) (r : Http.Request) : Option String := do
  let response ← t r
  if response.succeeded then completion? (← Json.parse? response.body) else none

/-- What the model declares, as it says. -/
def rawDeclarations (t : Http.Transport) (a : Access) (content language : String) :
    List Declaration :=
  match (request? a content language).bind (complete? t) with
  | none => []
  | some reply => declarationsIn reply.toList

/-- What the model declares, as the index keeps it. -/
def declarations (t : Http.Transport) (a : Access) (content language : String) :
    List Declaration :=
  settle (rawDeclarations t a content language) (Text.countLines content.toList)

end ContextIndex.Extract.Model
