import ContextIndex.Command.Record
import ContextIndex.Command.Screen
import ContextIndex.Config.Services
import ContextIndex.Query.Envelope

/-!
# What commands share

A command runs somewhere, on an open database and under a configuration.  It answers with lines,
either for people or in JSON, and may fail.  Lines that were shown stay shown when the command fails
after them.
-/

namespace ContextIndex.Command

/-- Where a command runs. -/
structure Surroundings where
  /-- The working directory. -/
  directory : String
  /-- The variables of the environment. -/
  environment : List (String × String)
  /-- The text on the input. -/
  input : String
  /-- The way to servers. -/
  transport : Http.Transport
  /-- The current time. -/
  now : Instant
  /-- Whether people see colours. -/
  colored : Bool

/-- What a command shows, and why it failed if it did. -/
structure Answer where
  /-- The lines. -/
  lines : List Line := []
  /-- Why it failed. -/
  failure : Option String := none
deriving DecidableEq, Repr

/-- The answer of a command that failed before it showed anything. -/
def Answer.failed (message : String) : Answer :=
  ⟨[], some message⟩

/-- The answer of a command that failed with an error. -/
def Answer.ofError (e : Error) : Answer :=
  .failed e.chain

/-- What an open database is used with. -/
structure App where
  /-- Where the command runs. -/
  surroundings : Surroundings
  /-- Whether the answer is JSON. -/
  json : Bool
  /-- The configuration. -/
  config : Config
  /-- The path of the database. -/
  databasePath : String
  /-- The database. -/
  store : Store

/-- The line of a success in JSON. -/
def successLine (command : String) (data : Json) : Line :=
  .out (Json.object [("ok", .bool true), ("command", .string command), ("data", data)]).ordered.pretty

/-- The line of a failure in JSON. -/
def failureLine (message : String) : Line :=
  .out (Json.object [("ok", .bool false), ("error", .string message)]).ordered.pretty

namespace App

variable (a : App)

/-- Whether people see colours. -/
def colored : Bool := a.surroundings.colored

/-- The host. -/
def service : Remote.Service Unit :=
  Remote.GitHub.service a.surroundings.transport
    (a.config.hostAccess a.surroundings.environment)

/-- A success in JSON or for people. -/
def answer (command : String) (data : Json) (lines : List Line) : Answer :=
  ⟨if a.json then [successLine command data] else lines, none⟩

/-- The repository that a text names. -/
def repoOf (text : String) : Except Error RepoId :=
  match RepoId.parse? text with
  | some r => .ok r
  | none => .error (.invalidRepo text)

/-- The answer to a query. -/
def queryAnswer {α : Type} (command : String) (toJson : α → Json)
    (lines : Query.Envelope α → List Line) (result : Except Error (Query.Envelope α)) : Answer :=
  match result with
  | .error e => .ofError e
  | .ok x => a.answer command (x.toJson toJson) (lines x)

/-- The accounting of an answer, after an empty line. -/
def metaLines {α : Type} (x : Query.Envelope α) : List Line :=
  [.out "", Screen.row a.colored "Tokens:" (toString x.totalTokens)] ++
    if x.truncated then [Screen.warning a.colored (x.hint.getD "Response truncated")] else []

end App

end ContextIndex.Command
