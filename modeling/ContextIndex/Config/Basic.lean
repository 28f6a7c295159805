import ContextIndex.Extract.Scan
import ContextIndex.Path
import ContextIndex.Query.Context
import ContextIndex.Query.File
import ContextIndex.Sync.Run

/-!
# The configuration

What a user can set: where the database is, who finds the symbols, which host and branch are synced,
how a sync goes about it, the budgets of answers, and the language model.  Everything has a default.
The environment overrides the database and is the only source of the key of the language model,
which is never written.
-/

namespace ContextIndex

/-- The extractors one can choose. -/
inductive ExtractorChoice
  /-- Rules for each language. -/
  | rules
  /-- A language model. -/
  | model
deriving DecidableEq, Repr

/-- The word for an extractor. -/
def ExtractorChoice.word : ExtractorChoice → String
  | rules => "regex"
  | model => "llm"

/-- The extractor that a word names. -/
def ExtractorChoice.ofWord? (word : String) : Option ExtractorChoice :=
  if word = "regex" then some rules
  else if word = "llm" then some model
  else none

/-- Which host is synced. -/
structure HostSettings where
  /-- The address under which the host answers. -/
  apiRoot : String := "https://api.github.com"
  /-- The branch whose head counts. -/
  branch : String := "main"
deriving DecidableEq, Repr

/-- How a sync goes about it. -/
structure SyncSettings where
  /-- How many files are indexed at a time. -/
  concurrency : Nat := 4
  /-- How long a lease lives, in seconds. -/
  leaseSeconds : Nat := 300
  /-- How long a push waits for the lease, in seconds. -/
  waitSeconds : Nat := 120
deriving DecidableEq, Repr

/-- The budgets of answers, in tokens. -/
structure BudgetSettings where
  /-- The budget of an answer. -/
  maxTokens : Nat := Query.defaultMaxTokens
  /-- The budget of the context of a symbol. -/
  context : Nat := Query.contextBudget
deriving DecidableEq, Repr

/-- The language model. -/
structure ModelSettings where
  /-- The address that completes chats. -/
  endpoint : String := "https://api.openai.com/v1/chat/completions"
  /-- The name of the model. -/
  name : String := "gpt-4o-mini"
  /-- The key; it comes from the environment only. -/
  key : Option String := none
deriving DecidableEq, Repr

/-- A configuration. -/
structure Config where
  /-- Where the database is, if set. -/
  database : Option String := none
  /-- Who finds the symbols. -/
  extractor : ExtractorChoice := .rules
  /-- Which host is synced. -/
  host : HostSettings := {}
  /-- How a sync goes about it. -/
  sync : SyncSettings := {}
  /-- The budgets of answers. -/
  budget : BudgetSettings := {}
  /-- The language model. -/
  model : ModelSettings := {}
deriving DecidableEq, Repr

namespace Config

/-- The file that holds the configuration unless told otherwise. -/
def defaultFile : String := "repoctx.toml"

/-- The variable that overrides the database. -/
def databaseVariable : String := "REPOCTX_DATABASE"

/-- The variable that holds the key of the language model. -/
def keyVariable : String := "LLM_API_KEY"

/-- The database unless told otherwise. -/
def defaultDatabase : String := ".repoctx/repoctx.db"

/-- The value of a variable, unless it is empty. -/
def setting? (environment : List (String × String)) (name : String) : Option String :=
  (environment.lookup name).filter (· ≠ "")

/-- A configuration under the variables of an environment. -/
def underEnvironment (c : Config) (environment : List (String × String)) : Config :=
  { c with
    database := (setting? environment databaseVariable).or c.database
    model := { c.model with key := (setting? environment keyVariable).or c.model.key } }

/-- Where the database is, seen from a base. -/
def databasePath (c : Config) (base : String) : String :=
  Path.join base (c.database.getD defaultDatabase)

/-- What a sync is told.  At least one file is indexed at a time, and a lease lives for a second. -/
def syncOptions (c : Config) : Sync.Options where
  branch := c.host.branch
  concurrency := max c.sync.concurrency 1
  leaseTime := 1000 * max c.sync.leaseSeconds 1
  leaseWait := 1000 * c.sync.waitSeconds

end Config

end ContextIndex
