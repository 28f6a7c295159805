import ContextIndex.Command.Arguments
import ContextIndex.Config.Basic
import ContextIndex.Query.Search

/-!
# The commands

What a user can ask for on the command line.  Some switches belong to every command and may stand
before or after its name.
-/

namespace ContextIndex.Command

/-- A command with what it is told. -/
inductive Action
  /-- Write a configuration and create the database. -/
  | init (force : Bool)
  /-- Sync a repository, or every one that is tracked if none is given. -/
  | sync (repo : Option String) (force : Bool)
  /-- Apply a push that a file describes. -/
  | webhook (payload : String)
  /-- Sync every tracked repository again and again. -/
  | cron (interval : Nat)
  /-- Show how far a repository is synced. -/
  | status (repo : String)
  /-- List the repositories. -/
  | repos
  /-- List the files of a repository. -/
  | files (repo : String)
  /-- Show a symbol in its context. -/
  | context (repo path name : String) (budget : Option Nat)
  /-- Show a part of a file. -/
  | file (repo path : String) (part : Query.FileSelector) (maxTokens : Option Nat)
  /-- Show the parts of files that a file lists. -/
  | batch (repo requests : String) (maxTokens : Option Nat)
  /-- Show the symbols of a file. -/
  | outline (repo path : String)
  /-- Search for symbols. -/
  | search (repo query : String) (kind : Option String) (limit : Nat)
  /-- Show what changed since a revision. -/
  | diff (repo : String) (since branch : Option String)
  /-- Show how much the index holds. -/
  | stats
deriving DecidableEq, Repr

/-- A command line. -/
structure Invocation where
  /-- Whether more is logged. -/
  verbose : Bool
  /-- Whether the answer is JSON. -/
  json : Bool
  /-- The file that holds the configuration. -/
  config : String
  /-- The command. -/
  action : Action
deriving DecidableEq, Repr

/-! ## Arguments -/

/-- The switches of every command. -/
def commonSwitches : List Switch :=
  [⟨"verbose", some 'v', none⟩, ⟨"json", none, none⟩, ⟨"config", some 'c', some .path⟩]

/-- The switches of a command of its own and its words, if there is one of that name. -/
def operandsOf? : String → Option (List Switch × List Operand)
  | "init" => some ([⟨"force", none, none⟩], [])
  | "sync" => some ([⟨"force", some 'f', none⟩, ⟨"all", none, none⟩], [.text])
  | "webhook" => some ([], [.path])
  | "cron" => some ([⟨"interval", none, some .quantity⟩], [])
  | "status" => some ([], [.text])
  | "repos" => some ([], [])
  | "files" => some ([], [.text])
  | "context" => some ([⟨"budget", some 'b', some .quantity⟩], [.text, .text, .text])
  | "file" => some ([⟨"function", some 'f', some .text⟩, ⟨"start", none, some .quantity⟩,
      ⟨"end", none, some .quantity⟩, ⟨"max-tokens", some 'm', some .quantity⟩], [.text, .text])
  | "batch" => some ([⟨"max-tokens", some 'm', some .quantity⟩], [.text, .path])
  | "outline" => some ([], [.text, .text])
  | "search" => some ([⟨"kind", some 'k', some .text⟩, ⟨"limit", some 'l', some .quantity⟩],
      [.text, .text])
  | "diff" => some ([⟨"since", some 's', some .text⟩, ⟨"branch", some 'b', some .text⟩], [.text])
  | "stats" => some ([], [])
  | _ => none

/-- The arguments in front of the name of a command. -/
def frontSignature : Signature :=
  { switches := commonSwitches, namesCommand := true }

/-- The arguments behind the name of a command, if there is one of that name. -/
def signatureOf? (name : String) : Option Signature :=
  (operandsOf? name).map fun (own, words) => { switches := own ++ commonSwitches, words }

/-- The part of a file that switches select: a function, or lines from one to another, both given,
or all. -/
def partOf (a : Arguments) : Except Stop Query.FileSelector :=
  match a.value? "function", a.quantity? "start", a.quantity? "end" with
  | some name, none, none => .ok (.function name)
  | none, some first, some last => .ok (.lines first last)
  | none, none, none => .ok .whole
  | _, _, _ => .error .misuse

/-- The command of a name with its arguments. -/
def actionOf (name : String) (a : Arguments) : Except Stop Action := do
  match name, a.words with
  | "init", [] => return .init (a.has "force")
  | "sync", [] => if a.has "all" then return .sync none (a.has "force") else throw .misuse
  | "sync", [repo] =>
    if a.has "all" then throw .misuse else return .sync (some repo) (a.has "force")
  | "webhook", [payload] => return .webhook payload
  | "cron", [] => return .cron ((a.quantity? "interval").getD 3600)
  | "status", [repo] => return .status repo
  | "repos", [] => return .repos
  | "files", [repo] => return .files repo
  | "context", [repo, path, symbol] => return .context repo path symbol (a.quantity? "budget")
  | "file", [repo, path] => return .file repo path (← partOf a) (a.quantity? "max-tokens")
  | "batch", [repo, requests] => return .batch repo requests (a.quantity? "max-tokens")
  | "outline", [repo, path] => return .outline repo path
  | "search", [repo, query] =>
    return .search repo query (a.value? "kind")
      ((a.quantity? "limit").getD Query.defaultSearchLimit)
  | "diff", [repo] => return .diff repo (a.value? "since") (a.value? "branch")
  | "stats", [] => return .stats
  | _, _ => throw .misuse

/-- What words after a request for help lead to: it is about all commands, or about one. -/
def helpAbout : List String → Stop
  | [] => .help
  | [name] => if name = "help" ∨ (operandsOf? name).isSome then .help else .misuse
  | _ => .misuse

/-- The command line that arguments write.  A switch behind the name of the command goes before the
same switch in front of it. -/
def Invocation.parse (args : List String) : Except Stop Invocation := do
  let (common, rest) ← frontSignature.read none {} args
  match rest with
  | [] => throw .misuse
  | "help" :: words => throw (helpAbout words)
  | name :: rest =>
    match signatureOf? name with
    | none => throw .misuse
    | some s =>
      let (a, _) ← s.read none {} rest
      return {
        verbose := common.has "verbose" || a.has "verbose"
        json := common.has "json" || a.has "json"
        config := ((a.value? "config").or (common.value? "config")).getD Config.defaultFile
        action := ← actionOf name a }

end ContextIndex.Command
