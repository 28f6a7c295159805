import ContextIndex.Config.Basic
import ContextIndex.Extract.Model
import ContextIndex.Remote.GitHub.Client

/-!
# What a configuration stands for

The host that is asked, and the extractor that finds symbols.  A language model needs a key; without
one there is no extractor.
-/

namespace ContextIndex.Config

/-- The variable that holds the token of the user. -/
def tokenVariable : String := "GITHUB_TOKEN"

/-- How the host is asked, with the token of an environment. -/
def hostAccess (c : Config) (environment : List (String × String)) : Remote.GitHub.Access :=
  Remote.GitHub.Access.withToken c.host.apiRoot (environment.lookup tokenVariable)

/-- The message for a language model without a key. -/
def missingKeyText : String :=
  "extractor = \"llm\" needs " ++ keyVariable ++ " to be set"

/-- The extractor, unless its key is missing. -/
def source? (c : Config) (t : Http.Transport) : Option Sync.SymbolSource :=
  match c.extractor with
  | .rules => some .byRules
  | .model => c.model.key.map fun key =>
      ⟨Extract.Model.extractor,
        Extract.Model.declarations t ⟨c.model.endpoint, key, c.model.name⟩⟩

end ContextIndex.Config
