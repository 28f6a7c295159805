import ContextIndex.Proofs.Sync.Script
import ContextIndex.Sync.Queue

/-!
# The syncs as scripts

A full sync, a partial sync and a sweep, call by call.  Each call finds the world as it is then,
whatever others have done since the one before, and a call to the store may be refused.  What a
script comes to when nobody interferes is what the sync of the same name computes
(`Script.steps_fullSyncIn`, `Script.alone_partialSyncIn`, `Activity.steps_step`).
-/

namespace ContextIndex.Sync

/-! ## Ends -/

/-- Why an attempt to take a lease came to nothing. -/
structure Refusal where
  /-- The lease that was in the way. -/
  lease : Option Lease
  /-- The time of the attempt. -/
  now : Instant

/-- How a sync ended. -/
inductive Exit
  /-- With this result. -/
  | ran (result : Except Error Outcome)
  /-- An attempt to take the lease failed. -/
  | unleased (e : Error)
  /-- The lease was not free before the wait ended.  The clock went from `start` to `stop` until the
  last attempt, which was refused. -/
  | gaveUp (last : Refusal) (start stop : Nat) (answer : Except Error Progress)

/-- The result that the caller gets. -/
def Exit.result : Exit → Except Error Outcome
  | ran result => result
  | unleased e => .error e
  | gaveUp _ _ _ answer => answer.map .alreadyRunning

namespace Script

variable {σ : Type}

/-! ## Leases -/

/-- Asks for the progress of a repository. -/
def progress (key : String) : Script σ (Except Error Progress) := do
  let here ← read fun w => w.status.get key
  if here.isActive then return .ok here
  match ← askStore fun w => (w.store.getLease key, w) with
  | .error e => return .error e
  | .ok none => return .ok here
  | .ok (some l) =>
    let now ← read fun w => w.now
    return .ok (if l.isExpired now then here
      else { state := .syncing, startedAt := some l.acquiredAt })

/-- Gives a lease up.  That this fails changes nothing for the sync. -/
def release (key holder : String) : Script σ Unit := do
  let _ ← askStore fun w => (.ok (), dropLease w key holder)

section

variable (c : Setup σ)

/-- Asks for the lease of a repository once. -/
def askLease (key : String) : Script σ (Except Error (Except Refusal String)) :=
  askStore fun w =>
    match takeLease w key c.label c.options.leaseTime with
    | (.error e, w') => (.error e, w')
    | (.ok (some holder), w') => (.ok (.ok holder), w')
    | (.ok none, w') => (.ok (.error ⟨w.store.lease? key, w.now⟩), w')

/-- Asks for the lease of a repository until it is free or the wait ends, and says then when that
was.  The clock is read after each attempt and does not go back. -/
def awaitLease (key : String) (wait : Wait) (since : Nat) :
    Script σ (Except Error (Except (Refusal × Nat) String)) := do
  match ← askLease c key with
  | .error e => return .error e
  | .ok (.ok holder) => return .ok (.ok holder)
  | .ok (.error refusal) =>
    let clock ← read World.clock
    -- The clock does not go back, so this is what it shows.
    let time := max since clock
    match _next : wait.next? time with
    | none => return .ok (.error (refusal, time))
    | some wake => .sleep wake (awaitLease key wait.grow wake)
termination_by wait.deadline - since
decreasing_by
  have := Wait.lt_of_next? _next
  simp only [Wait.grow]
  omega

/-! ## Files -/

/-- Says for each file that one more file is done. -/
def noteFiles (key : String) : List FileResult → Script σ Unit
  | [] => return
  | _ :: results => do
    note fun _ r => r.fileDone key
    noteFiles key results

/-- Reports the files of a run and records the sync. -/
def record (run : Run) (results : List FileResult) : Script σ (Except Error Outcome) := do
  noteFiles run.repo.fullName results
  let report := results.foldl (fun r x => r.record x.1 x.2) run.report
  match ← askStore fun w =>
    (.ok (), { w with store := w.store.recordSync run.repo.id run.revision w.now }) with
  | .error e => return .error e
  | .ok () => return .ok (.completed { report with revision := run.revision })

/-- Indexes the files of a run and records the sync. -/
def index (run : Run) : Script σ (Except Error Outcome) :=
  .crew run (run.jobs.map fun job => { job }) [] (record run)

/-- The end of a sync that has the lease. -/
def conclude (key holder : String) (result : Except Error Outcome) : Script σ Exit := do
  release key holder
  note fun now r =>
    match result with
    | .ok (.completed report) => r.finish key now report.statusError
    | .ok _ => r.clearQueued key
    | .error e => r.fail key now e.message
  return .ran result

/-! ## Full syncs -/

/-- Asks for the row of a repository.  A new one is stored with what the host says about it. -/
def resolve (repo : RepoId) : Script σ (Except Error RepoRow) := do
  match ← askStore fun w => (w.store.getRepo repo, w) with
  | .error e => return .error e
  | .ok (some row) => return .ok row
  | .ok none =>
    match ← askHost (c.service.metadata repo) with
    | .error e => return .error (.remote e)
    | .ok metadata =>
      askStore fun w =>
        ((w.store.insertRepo repo metadata).1,
          { w with store := (w.store.insertRepo repo metadata).2 })

/-- A full sync that has the lease. -/
def runFull (row : RepoRow) (holder : String) (force : Bool) :
    Script σ (Except Error Outcome) := do
  match ← askHost (c.service.head row.repoId c.options.branch) with
  | .error e => return .error (.remote e)
  | .ok head =>
    match ← askStore fun w => (.ok (w.store.countFiles row.id), w) with
    | .error e => return .error e
    | .ok count =>
      if needsSync row.lastRevision count head force then
        note fun now r => r.begin row.fullName now
        match ← askHost (c.service.tree row.repoId head) with
        | .error e => return .error (.remote e)
        | .ok tree =>
          let entries := Remote.indexableEntries tree
          note fun _ r => r.setTotal row.fullName entries.length
          index
            { repo := row, holder, reference := head, revision := some head, force, report := {},
              jobs := entries.map fun e => ⟨e.path, some e.sha⟩ }
      else return .ok .upToDate

/-- A full sync of a stored repository. -/
def fullFrom (key : String) (row : RepoRow) (force : Bool) : Script σ Exit := do
  match ← askLease c key with
  | .error e => return .unleased e
  | .ok (.error _) =>
    note fun _ r => r.clearQueued key
    return .ran ((← progress key).map .alreadyRunning)
  | .ok (.ok holder) =>
    let result ← runFull c row holder force
    conclude row.fullName holder result

/-- A full sync. -/
def full (repo : RepoId) (force : Bool) : Script σ Exit := do
  match ← resolve c repo with
  | .error e =>
    note fun now r => r.fail repo.fullName now e.message
    return .ran (.error e)
  | .ok row => fullFrom c repo.fullName row force

/-! ## Partial syncs -/

/-- Deletes a file. -/
def delete (repo : RepoRow) (path : String) : Script σ (Except Error FileOutcome) :=
  askStore fun w => (.ok .deleted, { w with store := (w.store.deleteFile repo.id path).2 })

/-- Deletes files and reports them. -/
def deleteAll (repo : RepoRow) : List String → Report → Script σ Report
  | [], report => return report
  | path :: paths, report => do
    let result ← delete repo path
    deleteAll repo paths (report.record path result)

/-- Looks changed paths up.  One that the host does not have is deleted.  The jobs that come of this
stand in reverse order. -/
def lookUpAll (repo : RepoRow) (reference : String) :
    List String → Report → List FileJob → Script σ (Report × List FileJob)
  | [], report, jobs => return (report, jobs)
  | path :: paths, report, jobs => do
    match ← askHost (c.service.contentId repo.repoId path reference) with
    | .ok id => lookUpAll repo reference paths report (⟨path, some id⟩ :: jobs)
    | .error e =>
      let result ← if e.isNotFound then delete repo path else pure (.error (.remote e))
      note fun _ r => r.fileDone repo.fullName
      lookUpAll repo reference paths (report.record path result) jobs

/-- A partial sync that has the lease. -/
def runPartial (row : RepoRow) (holder : String) (changes : ChangeSet) :
    Script σ (Except Error Outcome) := do
  let reference := changes.revision.getD c.options.branch
  let report ← deleteAll row changes.deleted {}
  let changed := changes.changed.filter Language.isIndexable
  note fun _ r => r.setTotal row.fullName changed.length
  let (report, jobs) ← lookUpAll c row reference changed report []
  index
    { repo := row, holder, reference, revision := changes.revision, force := false, report,
      jobs := jobs.reverse }

/-- A partial sync that waits for the lease. -/
def partialFrom (row : RepoRow) (changes : ChangeSet) (wait : Wait) (start since : Nat) :
    Script σ Exit := do
  match ← awaitLease c row.fullName wait since with
  | .error e => return .unleased e
  | .ok (.error (last, stop)) => return .gaveUp last start stop (← progress row.fullName)
  | .ok (.ok holder) =>
    note fun now r => r.begin row.fullName now
    let result ← runPartial c row holder changes
    conclude row.fullName holder result

/-- A partial sync. -/
def partialSync (repo : RepoId) (changes : ChangeSet) : Script σ Exit := do
  match ← askStore fun w => (storedRepo repo w, w) with
  | .error e => return .ran (.error e)
  | .ok row =>
    let now ← read World.clock
    partialFrom c row changes (.start now c.options.leaseWait) now now

/-! ## Jobs -/

/-- Full syncs one after another. -/
def sweep : List RepoRow → Script σ (List Exit)
  | [] => return []
  | row :: rows => do
    let first ← full c row.repoId false
    let others ← sweep rows
    return first :: others

/-- A job, and the ends of its syncs. -/
def job : Job → Script σ (List Exit)
  | .full repo force => return [← full c repo force]
  | .push repo changes => return [← partialSync c repo changes]
  | .sweep => do
    match ← askStore fun w => (w.store.listRepos, w) with
    | .error e => return [.ran (.error e)]
    | .ok rows => sweep c rows

end

end Script

end ContextIndex.Sync
