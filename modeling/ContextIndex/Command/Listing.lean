import ContextIndex.Command.App
import ContextIndex.Display.Table
import ContextIndex.Query.Lookup

/-!
# Commands that list what is stored

The size of the index, its repositories, their files, and how far each is synced.
-/

namespace ContextIndex.Command.App

variable (a : App)

/-- Shows how much the index holds. -/
def stats : Answer :=
  let t := a.store.stats
  let table := Display.metricTable [("Repositories", toString t.repos),
    ("Files", toString t.files), ("Symbols", toString t.symbols), ("Tokens", toString t.tokens),
    ("Active leases", toString t.leases)]
  a.answer "stats" t.toJson
    [Screen.status a.colored Sign.database "Database" a.databasePath, .out table]

/-- A stored repository. -/
def storedRepo (repo : String) : Except Error RepoRow := do
  Query.requireRepo a.store (← repoOf repo)

/-- The lines of how far a repository is synced. -/
def statusLines (row : RepoRow) (files : Nat) (lease : Option Lease) : List Line :=
  [Screen.status a.colored Sign.parcel "Repository" row.fullName,
    Screen.row a.colored "Files:" (toString files),
    Screen.row a.colored "Revision:" (row.lastRevision.getD "-"),
    Screen.row a.colored "Last synced:" ((row.lastSyncedAt.map Screen.timeText).getD "never"),
    match lease with
    | some l => Screen.status a.colored Sign.hourglass "Sync running"
        ("held by " ++ l.holder ++ " since " ++ Screen.timeText l.acquiredAt)
    | none => Screen.status a.colored Sign.cycle "State" "idle"]

/-- Shows how far a repository is synced. -/
def status (repo : String) : Answer :=
  match (do
    let row ← a.storedRepo repo
    let lease ← a.store.getLease row.fullName
    return (row, lease.filter fun (l : Lease) => !l.isExpired a.surroundings.now)) with
  | .error e => .ofError e
  | .ok (row, lease) =>
    let files := a.store.countFiles row.id
    a.answer "status"
      (.object [("repository", row.toJson), ("files", .nat files),
        ("lease", (lease.map Lease.toJson).getD .null)])
      (a.statusLines row files lease)

/-- Lists the repositories. -/
def repos : Answer :=
  match a.store.listRepos with
  | .error e => .ofError e
  | .ok rows =>
    a.answer "repos" (.array (rows.map RepoRow.toJson))
      [if rows.isEmpty then
        Screen.note a.colored "No repositories tracked yet" "run \x60repoctx sync owner/name\x60"
      else .out (Display.repoTable (rows.map fun r =>
        ⟨r.fullName, r.language, r.lastRevision, r.lastSyncedAt⟩))]

/-- Lists the files of a repository. -/
def files (repo : String) : Answer :=
  match a.storedRepo repo with
  | .error e => .ofError e
  | .ok row =>
    let rows := a.store.listFiles row.id
    a.answer "files" (.array (rows.map FileRow.summaryJson))
      [.out (Display.fileTable (rows.map fun f =>
        ⟨f.path, f.language, f.lineCount, f.tokens, f.symbols.length⟩))]

end ContextIndex.Command.App
