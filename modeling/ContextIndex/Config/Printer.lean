import ContextIndex.Config.Basic
import ContextIndex.Toml.Printer

/-!
# Writing a configuration

Everything is written but the key of the language model.
-/

namespace ContextIndex.Config

/-- The pairs at the top of the file. -/
def topPairs (c : Config) : List (String × Toml.Plain) :=
  let extractor := [("extractor", Toml.Plain.text c.extractor.word)]
  match c.database with
  | none => extractor
  | some db => ("database", .text db) :: extractor

/-- The tables of the file. -/
def sections (c : Config) : List Toml.Section :=
  [⟨"github", [("api_url", .text c.host.apiRoot), ("branch", .text c.host.branch)]⟩,
    ⟨"sync", [("concurrency", .number c.sync.concurrency),
      ("lease_ttl_secs", .number c.sync.leaseSeconds),
      ("webhook_lease_wait_secs", .number c.sync.waitSeconds)]⟩,
    ⟨"budget", [("default_max_tokens", .number c.budget.maxTokens),
      ("context_budget", .number c.budget.context)]⟩,
    ⟨"llm", [("api_url", .text c.model.endpoint), ("model", .text c.model.name)]⟩]

/-- The file for a configuration, if its numbers can be written. -/
def write? (c : Config) : Option String :=
  Toml.print? c.topPairs c.sections

end ContextIndex.Config
