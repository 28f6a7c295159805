import ContextIndex.Command.Run
import Std.Time.DateTime.Timestamp

/-!
# The command line

The outer layer: it reads the files that a command names, runs the command, writes the files that
changed and shows the lines.  No way to a server is linked in, so every host is out of reach, and
nothing gets into a database.
-/

namespace ContextIndex.Command.Shell

/-- The variables that commands look at. -/
def variableNames : List String :=
  [Config.databaseVariable, Config.keyVariable, Config.tokenVariable]

/-- The environment, as far as commands look at it. -/
def environment : IO (List (String × String)) := do
  let values ← variableNames.mapM fun name => do return (← IO.getEnv name).map (name, ·)
  return values.filterMap id

/-- The paths that a command line names. -/
def pathsOf (i : Invocation) : List String :=
  let more := match i.action with
    | .webhook payload => [payload]
    | .batch _ requests _ => [requests]
    | _ => []
  [i.config, ignoreFile] ++ more.filter fun path => !isInput path

/-- Whether a command line reads the input. -/
def readsInput (i : Invocation) : Bool :=
  match i.action with
  | .webhook payload => isInput payload
  | .batch _ requests _ => isInput requests
  | _ => false

/-- The path to a place. -/
def pathTo (place : Place) : String :=
  "/" ++ String.intercalate "/" place

/-- Whether a path leads anywhere, and whether to a directory. -/
def findPath (path : String) : IO (Bool × Bool) := do
  try return (true, ← (← IO.FS.realPath path).isDir) catch _ => return (false, false)

/-- The text of a file, if it can be read. -/
def readText? (path : String) : IO (Option String) := do
  try return some (← IO.FS.readFile path) catch _ => return none

/-- What is at a place.  A file that holds no text counts as a database. -/
def readEntry? (place : Place) : IO (Option Entry) := do
  match ← findPath (pathTo place) with
  | (false, _) => return none
  | (true, true) => return some .directory
  | (true, false) => return some <| match ← readText? (pathTo place) with
    | some text => .text text
    | none => .database {}

/-- The places to which the beginnings of a path lead. -/
def placesOn (path : String) : List Place :=
  let parts := Path.segments path
  parts.mapIdx fun i _ => ((parts.take (i + 1)).foldl Path.step []).reverse

/-- What is on the disk, as far as paths name it. -/
def readDisk (s : Surroundings) (paths : List String) : IO Disk := do
  let places := (paths.flatMap fun path => placesOn (Path.join s.directory path)).eraseDups
  let entries ← places.mapM fun place => do return (← readEntry? place).map (place, ·)
  return ⟨(Path.place s.directory, .directory) :: entries.filterMap id⟩

/-- What is on the disk, as far as a command line and the configuration that it names do. -/
def readFor (s : Surroundings) (i : Invocation) : IO Disk := do
  let disk ← readDisk s (pathsOf i)
  let configs : List Config := ({} : Config) :: (loadConfig s disk i.config).toOption.toList
  readDisk s (pathsOf i ++ configs.map fun c => Config.databasePath c s.directory)

/-- Writes what has changed: texts, directories, and databases that are not there. -/
def writeDisk (before after : Disk) : IO Unit := do
  for (place, entry) in after.entries do
    match entry, before.entries.lookup place with
    | .text new, some (.text old) => if new ≠ old then IO.FS.writeFile (pathTo place) new
    | .text new, _ => IO.FS.writeFile (pathTo place) new
    | .directory, none => IO.FS.createDirAll (pathTo place)
    | .database _, none => IO.FS.withFile (pathTo place) .append fun _ => pure ()
    | _, _ => pure ()

/-- The seconds since a reading of the clock, with two places. -/
def secondsSince (start : Nat) : IO String := do
  let hundredths := ((← IO.monoMsNow) - start) / 10
  return toString (hundredths / 100) ++ "." ++
    String.ofList (Instant.padded 2 (hundredths % 100)) ++ "s"

/-- Shows a line. -/
def showLine (s : Surroundings) (start : Nat) : Line → IO Unit
  | .out text => IO.println text
  | .err text => IO.eprintln text
  | .elapsed => do IO.println (Screen.elapsedText s.colored (← secondsSince start))

/-- Runs a command once; the result is its exit code. -/
def runOnce (s : Surroundings) (args : List String) : IO UInt32 := do
  let start ← IO.monoMsNow
  let before ← match Invocation.parse args with
    | .ok i => readFor s i
    | .error _ => readDisk s []
  let (result, after) := run s args before
  writeDisk before after
  result.lines.forM (showLine s start)
  return UInt32.ofNat result.code

/-- The seconds after which a command line is to run again, if it is. -/
def interval? (args : List String) : Option Nat :=
  match Invocation.parse args with
  | .ok i => match i.action with
    | .cron interval => some (max interval 1)
    | _ => none
  | .error _ => none

/-- Runs a command again and again. -/
partial def runEvery (s : Surroundings) (args : List String) (interval : Nat) : IO UInt32 := do
  let _ ← runOnce s args
  IO.sleep (UInt32.ofNat (min (1000 * interval) 4294967295))
  runEvery s args interval

/-- The surroundings of this process. -/
def surroundings (args : List String) : IO Surroundings := do
  let directory := (← IO.currentDir).toString
  let input ← match Invocation.parse args with
    | .ok i => if readsInput i then (← IO.getStdin).readToEnd else pure ""
    | .error _ => pure ""
  let now ← Std.Time.Timestamp.now
  return {
    directory
    environment := ← environment
    input
    transport := Http.unreachable
    now := ⟨now.toMillisecondsSinceUnixEpoch.val⟩
    colored := false }

end ContextIndex.Command.Shell

/-- The command line. -/
def main (args : List String) : IO UInt32 := do
  let s ← ContextIndex.Command.Shell.surroundings args
  match ContextIndex.Command.Shell.interval? args with
  | none => ContextIndex.Command.Shell.runOnce s args
  | some interval => ContextIndex.Command.Shell.runEvery s args interval
