import ContextIndex.Config.Basic
import ContextIndex.Toml.Decode
import ContextIndex.Toml.Parser

/-!
# Reading a configuration

Whatever a file leaves out keeps its default.  What it says has to be of the right type; what it
says beyond that is skipped.
-/

namespace ContextIndex.Config

open Toml (Record asChoice asRecord asText asWord)

/-- The settings of the host. -/
def hostRecord : Record HostSettings :=
  [("api_url", fun v s => return { s with apiRoot := ← asText v }),
    ("branch", fun v s => return { s with branch := ← asText v })]

/-- The settings of a sync. -/
def syncRecord : Record SyncSettings :=
  [("concurrency", fun v s => return { s with concurrency := ← asWord "usize" v }),
    ("lease_ttl_secs", fun v s => return { s with leaseSeconds := ← asWord "u64" v }),
    ("webhook_lease_wait_secs", fun v s => return { s with waitSeconds := ← asWord "u64" v })]

/-- The budgets. -/
def budgetRecord : Record BudgetSettings :=
  [("default_max_tokens", fun v s => return { s with maxTokens := ← asWord "usize" v }),
    ("context_budget", fun v s => return { s with context := ← asWord "usize" v })]

/-- The language model, without a key. -/
def modelRecord : Record ModelSettings :=
  [("api_url", fun v s => return { s with endpoint := ← asText v }),
    ("model", fun v s => return { s with name := ← asText v })]

/-- A configuration. -/
def record : Record Config :=
  [("database", fun v c => return { c with database := some (← asText v) }),
    ("extractor", fun v c =>
      return { c with extractor := ← asChoice ExtractorChoice.ofWord? "`regex` or `llm`" v }),
    ("github", fun v c =>
      return { c with host := ← asRecord "struct GitHubConfig" hostRecord {} v }),
    ("sync", fun v c => return { c with sync := ← asRecord "struct SyncConfig" syncRecord {} v }),
    ("budget", fun v c =>
      return { c with budget := ← asRecord "struct BudgetConfig" budgetRecord {} v }),
    ("llm", fun v c => return { c with model := ← asRecord "struct LlmConfig" modelRecord {} v })]

/-- The configuration that a file holds, or what is wrong with the file. -/
def read (content : String) : Except Toml.Misreading Config := do
  let cs := content.toList
  let fields ← Toml.parse cs
  match Toml.ofFields record {} fields with
  | .ok c => return c
  | .error m => .error ⟨{ cause := some m.cause }, m.place.getD ⟨cs, cs⟩⟩

/-- The configuration that a file holds, if it can be read. -/
def read? (content : String) : Option Config :=
  (read content).toOption

end ContextIndex.Config
