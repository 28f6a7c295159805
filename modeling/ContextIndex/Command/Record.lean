import ContextIndex.Json.Printer
import ContextIndex.Sync.Run

/-!
# Rows and reports as JSON

What a command answers when it is asked for JSON.  Times are written as text, and the fields of every
object are put in the order of their names.
-/

namespace ContextIndex

/-- An instant as JSON. -/
def Instant.toJson (t : Instant) : Json :=
  .string t.text

/-- An instant or null. -/
def Json.ofInstant? : Option Instant → Json
  | none => .null
  | some t => t.toJson

/-- A repository as JSON. -/
def RepoRow.toJson (r : RepoRow) : Json :=
  .object [("id", .nat r.id), ("owner", .string r.owner), ("name", .string r.name),
    ("full_name", .string r.fullName), ("description", .ofText? r.description),
    ("language", .ofText? r.language), ("last_revision", .ofText? r.lastRevision),
    ("last_synced_at", .ofInstant? r.lastSyncedAt)]

/-- A file as JSON, without its text. -/
def FileRow.summaryJson (f : FileRow) : Json :=
  .object [("path", .string f.path), ("language", .string f.language),
    ("line_count", .nat f.lineCount), ("token_count", .nat f.tokens),
    ("symbol_count", .nat f.symbols.length)]

/-- A lease as JSON. -/
def Lease.toJson (l : Lease) : Json :=
  .object [("repo_key", .string l.key), ("holder", .string l.holder),
    ("acquired_at", l.acquiredAt.toJson), ("expires_at", l.expiresAt.toJson)]

/-- The size of the store as JSON. -/
def Store.Stats.toJson (t : Store.Stats) : Json :=
  .object [("repos", .nat t.repos), ("files", .nat t.files), ("symbols", .nat t.symbols),
    ("tokens", .nat t.tokens), ("active_leases", .nat t.leases)]

namespace Sync

/-- The progress of a sync as JSON. -/
def Progress.toJson (p : Progress) : Json :=
  .object [("state", .string p.state.label), ("started_at", .ofInstant? p.startedAt),
    ("finished_at", .ofInstant? p.finishedAt), ("files_total", .nat p.filesTotal),
    ("files_processed", .nat p.filesProcessed), ("last_error", .ofText? p.lastError)]

/-- The report of a run as JSON. -/
def Report.toJson (r : Report) : Json :=
  .object [("files_seen", .nat r.filesSeen), ("files_written", .nat r.filesWritten),
    ("files_unchanged", .nat r.filesUnchanged), ("files_failed", .nat r.filesFailed),
    ("files_deleted", .nat r.filesDeleted), ("revision", .ofText? r.revision),
    ("errors", .array (r.errors.map fun e =>
      .object [("path", .string e.path), ("message", .string e.message)]))]

/-- How a sync went, as JSON. -/
def Outcome.toJson : Outcome → Json
  | .upToDate => .object [("outcome", .string "up_to_date")]
  | .completed r => .object [("outcome", .string "completed"), ("detail", r.toJson)]
  | .alreadyRunning p => .object [("outcome", .string "already_running"), ("detail", p.toJson)]

end Sync

namespace Json

/-- Fields with a further one before the first whose name is not less. -/
def insertField (name : String) (v : Json) : List (String × Json) → List (String × Json)
  | [] => [(name, v)]
  | (k, w) :: fs => if name ≤ k then (name, v) :: (k, w) :: fs else (k, w) :: insertField name v fs

mutual

/-- A value whose objects have their fields in the order of their names. -/
def ordered : Json → Json
  | array items => array (orderedItems items)
  | object fields => object (orderedFields fields)
  | v => v

/-- The items of an array. -/
def orderedItems : List Json → List Json
  | [] => []
  | v :: vs => v.ordered :: orderedItems vs

/-- The fields of an object. -/
def orderedFields : List (String × Json) → List (String × Json)
  | [] => []
  | (k, v) :: fs => insertField k v.ordered (orderedFields fs)

end

end Json

end ContextIndex
