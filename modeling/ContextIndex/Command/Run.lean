import ContextIndex.Command.Disk
import ContextIndex.Command.Invocation
import ContextIndex.Command.Listing
import ContextIndex.Command.Query
import ContextIndex.Command.Sync
import ContextIndex.Config.Printer
import ContextIndex.Config.Reader
import ContextIndex.IgnoreFile

/-!
# Running commands

The arguments say which command runs.  It loads the configuration, opens the database, creating it
if there is none, and leaves the disk as it has become.  Only the command that writes the
configuration needs none.
-/

namespace ContextIndex.Command

/-- The parts of a path from the root, seen from the working directory. -/
def Surroundings.partsOf (s : Surroundings) (path : String) : Except DiskFault (List String) :=
  if maxPath < path.utf8ByteSize then .error .nameTooLong
  else .ok ((Path.pieces '/' (Path.join s.directory path).toList).map String.ofList)

/-- Whether a path leads anywhere. -/
def Surroundings.finds (s : Surroundings) (d : Disk) (path : String) : Bool :=
  match s.partsOf path with
  | .ok parts => d.leads parts
  | .error _ => false

/-- The text of a file. -/
def Surroundings.readText (s : Surroundings) (d : Disk) (path : String) : Except DiskFault String := do
  d.readText (← s.partsOf path)

/-- The disk with a text in a file. -/
def Surroundings.writeText (s : Surroundings) (d : Disk) (path text : String) :
    Except DiskFault Disk := do
  d.writeText (← s.partsOf path) text

/-- Whether a path stands for the input: a hyphen, whatever slashes and single dots follow it. -/
def isInput (path : String) : Bool :=
  match Path.pieces '/' path.toList with
  | ['-'] :: rest => rest.all fun part => part.isEmpty || part == ['.']
  | _ => false

/-- The text of a file, or the input. -/
def inputText (s : Surroundings) (d : Disk) (path : String) : Except String String :=
  if isInput path then .ok s.input
  else match s.readText d path with
    | .ok text => .ok text
    | .error fault => .error ("failed to read " ++ path ++ ": " ++ fault.message)

/-- The configuration in a file, or the defaults if there is none, under the environment. -/
def loadConfig (s : Surroundings) (d : Disk) (path : String) : Except String Config :=
  if s.finds d path then
    match s.readText d path with
    | .error fault => .error fault.message
    | .ok text =>
      match Config.read text with
      | .ok c => .ok (c.underEnvironment s.environment)
      | .error m => .error (m.message text.toList)
  else .ok (Config.underEnvironment {} s.environment)

/-- The message for a configuration that is already there. -/
def configExistsText (path : String) : String :=
  "config already exists at " ++ path ++ " (use --force to overwrite)"

/-- The disk with a new configuration. -/
def writeConfig (s : Surroundings) (d : Disk) (path : String) (c : Config) (force : Bool) :
    Except String Disk :=
  if s.finds d path && !force then .error (configExistsText path)
  else match c.write? with
    | none => .error "out-of-range value for u64 type"
    | some text => (s.writeText d path text).mapError DiskFault.message

/-- The name of the file that says what is not kept with the source. -/
def ignoreFile : String := ".gitignore"

/-- The disk whose ignore file names the directory of the index. -/
def ensureIgnored (s : Surroundings) (d : Disk) : Except String Disk := do
  let text ← if s.finds d ignoreFile then (s.readText d ignoreFile).mapError DiskFault.message
    else pure ""
  (s.writeText d ignoreFile (IgnoreFile.ensure text)).mapError DiskFault.message

/-- The database at a path and the disk on which it is, with the directories to it; `context` stands
before the reason why it cannot be opened. -/
def openDatabase (context : String) (d : Disk) (path : String) : Except String Store × Disk :=
  match d.makeRoom path with
  | (d, some fault) => (.error fault.message, d)
  | (d, none) =>
    match d.openDatabase path with
    | .error e => (.error (context ++ e.chain), d)
    | .ok store => (.ok store, d.putDatabase path store)

/-- Writes a configuration and creates the database. -/
def setUp (s : Surroundings) (json : Bool) (path : String) (force : Bool) (d : Disk) :
    Answer × Disk :=
  let config : Config := {}
  match writeConfig s d path config force with
  | .error message => (.failed message, d)
  | .ok d =>
    let databasePath := config.databasePath s.directory
    match openDatabase "" d databasePath with
    | (.error message, d) => (.failed message, d)
    | (.ok _, d) =>
      match ensureIgnored s d with
      | .error message => (.failed message, d)
      | .ok d =>
        let lines := if json then
            [successLine "init"
              (.object [("config", .string path), ("database", .string databasePath)])]
          else [Screen.success s.colored ("Wrote " ++ path),
            Screen.status s.colored Sign.database "Database" databasePath]
        (⟨lines, none⟩, d)

/-- Runs a command on an open database. -/
def runOpen (a : App) (d : Disk) : Action → Answer × Store
  | .init _ => ({}, a.store)
  | .sync repo force => a.sync repo force
  | .webhook payload =>
    match inputText a.surroundings d payload with
    | .error message => (.failed message, a.store)
    | .ok text => a.webhook text
  | .cron _ => a.sync none false
  | .status repo => (a.status repo, a.store)
  | .repos => (a.repos, a.store)
  | .files repo => (a.files repo, a.store)
  | .context repo path name budget => (a.context repo path name budget, a.store)
  | .file repo path part maxTokens => (a.file repo path part maxTokens, a.store)
  | .batch repo requests maxTokens =>
    match inputText a.surroundings d requests with
    | .error message => (.failed message, a.store)
    | .ok text => (a.batch repo text maxTokens, a.store)
  | .outline repo path => (a.outline repo path, a.store)
  | .search repo query kind limit => (a.search repo query kind limit, a.store)
  | .diff repo since branch => (a.diff repo since branch, a.store)
  | .stats => (a.stats, a.store)

/-- Runs a command. -/
def runAction (s : Surroundings) (i : Invocation) (d : Disk) : Answer × Disk :=
  match i.action with
  | .init force => setUp s i.json i.config force d
  | action =>
    match loadConfig s d i.config with
    | .error message => (.failed message, d)
    | .ok config =>
      let databasePath := config.databasePath s.directory
      match openDatabase ("failed to open index at " ++ databasePath ++ ": ") d databasePath with
      | (.error message, d) => (.failed message, d)
      | (.ok store, d) =>
        let a : App := ⟨s, i.json, config, databasePath, store⟩
        let (answer, store) := runOpen a d action
        (answer, d.putDatabase databasePath store)

/-- What a command line leads to. -/
structure Result where
  /-- The exit code: zero for success, one for failure, two for misuse. -/
  code : Nat
  /-- The lines shown. -/
  lines : List Line
deriving DecidableEq, Repr

/-- An answer with the line of its failure, if it failed. -/
def Answer.result (s : Surroundings) (json : Bool) (x : Answer) : Result :=
  match x.failure with
  | none => ⟨0, x.lines⟩
  | some message =>
    ⟨1, x.lines ++ [if json then failureLine message else Screen.failure s.colored message]⟩

/-- The line that tells the version. -/
def versionLine : Line := .out "repoctx 0.0.1"

/-- The line that tells how commands are written. -/
def usageLine : String :=
  "Usage: repoctx [--verbose] [--json] [--config FILE] COMMAND"

/-- Runs the command that arguments write. -/
def run (s : Surroundings) (args : List String) (d : Disk) : Result × Disk :=
  match Invocation.parse args with
  | .error .misuse => (⟨2, [.err usageLine]⟩, d)
  | .error .help => (⟨0, [.out usageLine]⟩, d)
  | .error .version => (⟨0, [versionLine]⟩, d)
  | .ok i =>
    let (answer, d) := runAction s i d
    (answer.result s i.json, d)

end ContextIndex.Command
