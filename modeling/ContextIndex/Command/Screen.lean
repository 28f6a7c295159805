import ContextIndex.Display.Theme
import ContextIndex.Instant
import ContextIndex.Sync.Run

/-!
# Lines on a terminal

What a command shows a person, line by line.  Warnings and failures go to the error output.  How long
a command took is known only to whoever runs it, so that line is left to them.
-/

namespace ContextIndex.Command

/-- A line that a command shows. -/
inductive Line
  /-- On the output. -/
  | out (text : String)
  /-- On the error output. -/
  | err (text : String)
  /-- On the output: how long the command took. -/
  | elapsed
deriving DecidableEq, Repr

/-! ## Signs -/

namespace Sign

/-- What starts. -/
def rocket : String := "🚀"

/-- What went well. -/
def check : String := "✅"

/-- What failed. -/
def cross : String := "❌"

/-- What to look at. -/
def warning : String := "⚠️"

/-- What to know. -/
def note : String := "ℹ️"

/-- A file. -/
def file : String := "📄"

/-- The database. -/
def database : String := "🗄️"

/-- How long it took. -/
def clock : String := "⏱️"

/-- What is under way. -/
def hourglass : String := "⏳"

/-- A sync. -/
def cycle : String := "🔄"

/-- A repository. -/
def parcel : String := "📦"

/-- A symbol. -/
def diamond : String := "🔹"

end Sign

/-! ## Kinds of line -/

namespace Screen

variable (colored : Bool)

/-- A title. -/
def header (text : String) : Line :=
  .out (Sign.rocket ++ " " ++ Display.Style.heading.apply colored text)

/-- A value with a sign and a label. -/
def status (sign label value : String) : Line :=
  .out (sign ++ " " ++ Display.Style.label.apply colored label ++ ": " ++ value)

/-- A success. -/
def success (label : String) : Line :=
  .out (Sign.check ++ " " ++ Display.Style.ok.apply colored label)

/-- A failure. -/
def failure (label : String) : Line :=
  .err (Sign.cross ++ " " ++ Display.Style.failed.apply colored label)

/-- A warning. -/
def warning (label : String) : Line :=
  .err (Sign.warning ++ " " ++ Display.Style.partialResult.apply colored label)

/-- A remark. -/
def note (label value : String) : Line :=
  .out (Display.Style.accent.apply colored Sign.note ++ " " ++
    Display.Style.label.apply colored label ++ ": " ++ value)

/-- A title inside the text, after an empty line. -/
def heading (title : String) : List Line :=
  [.out "", .out ("━" ++ Display.Style.heading.apply colored title ++ "━")]

/-- A text of less weight. -/
def muted (text : String) : String :=
  Display.Style.muted.apply colored text

/-- A value with a label, indented. -/
def row (label value : String) : Line :=
  .out ("  " ++ Display.Style.label.apply colored label ++ " " ++ value)

/-- The line that says how long a command took. -/
def elapsedText (time : String) : String :=
  Display.Style.label.apply colored Sign.clock ++ " " ++ muted colored time

/-- The instant as people get to see it, with its offset from universal time. -/
def timeText (t : Instant) : String :=
  let fraction := if t.millisOfDay % 1000 = 0 then []
    else '.' :: Instant.padded 3 (t.millisOfDay % 1000)
  String.ofList (t.secondsText ++ fraction ++ "+00:00".toList)

/-! ## Syncs -/

/-- The head of the report of a run. -/
def reportHead (r : Sync.Report) : Line :=
  let (sign, text) := match r.status with
    | .success => (Sign.check, Display.Style.ok.apply colored "completed")
    | .someFailed => (Sign.warning, Display.Style.partialResult.apply colored "partial")
    | .allFailed => (Sign.cross, Display.Style.failed.apply colored "failed")
  .out (sign ++ " Sync " ++ text)

/-- A file that failed. -/
def failedFile (e : Sync.FileError) : Line :=
  .err ("  " ++ Sign.cross ++ " " ++ e.path ++ " " ++ muted colored e.message)

/-- The report of a run. -/
def report (r : Sync.Report) : List Line :=
  [reportHead colored r,
    row colored "Files seen:" (toString r.filesSeen),
    row colored "Written:" (toString r.filesWritten),
    row colored "Unchanged:" (toString r.filesUnchanged),
    row colored "Deleted:" (toString r.filesDeleted),
    row colored "Failed:" (toString r.filesFailed)] ++
  (r.revision.map (row colored "Revision:")).toList ++ r.errors.map (failedFile colored)

/-- The style of the state of a sync. -/
def stateStyle : Sync.State → Display.Style
  | .idle => .ok
  | .queued => .accent
  | .syncing => .partialResult
  | .failed => .failed

/-- The progress of a sync. -/
def progress (repo : String) (p : Sync.Progress) : List Line :=
  [status colored Sign.cycle repo ((stateStyle p.state).apply colored p.state.label)] ++
  (if 0 < p.filesTotal then
    [row colored "Files:" (toString p.filesProcessed ++ "/" ++ toString p.filesTotal)] else []) ++
  (p.startedAt.map fun t => row colored "Started:" (timeText t)).toList ++
  (p.finishedAt.map fun t => row colored "Finished:" (timeText t)).toList ++
  (p.lastError.map fun e => row colored "Error:" (Display.Style.failed.apply colored e)).toList

/-- How a sync of a repository went. -/
def outcome (repo : String) : Sync.Outcome → List Line
  | .upToDate => [success colored (repo ++ " is up to date")]
  | .completed r => report colored r
  | .alreadyRunning p =>
    warning colored ("A sync of " ++ repo ++ " is already running") :: progress colored repo p

end Screen

end ContextIndex.Command
