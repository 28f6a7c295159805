import ContextIndex.Extract.Scan
import ContextIndex.Remote.Service
import ContextIndex.Store.Lease
import ContextIndex.Sync.Change
import ContextIndex.Sync.Push
import ContextIndex.Sync.Status
import ContextIndex.Sync.Wait

/-!
# Runs of a sync

A full sync brings the stored files of a repository up to the head of its branch; a partial sync
applies the changes of a push.  Either holds the lease of the repository while it runs.  A run goes
through phases: it may wait for the lease, it indexes files, and it is over.  What happens between
two phases is one step here, so whoever composes runs decides what comes between their steps.  The
files of a run are independent jobs; one that fails is reported and keeps no other from being done.
-/

namespace ContextIndex.Sync

/-! ## Surroundings -/

/-- What a sync is told. -/
structure Options where
  /-- The branch whose head counts. -/
  branch : String := "main"
  /-- How many files are indexed at a time. -/
  concurrency : Nat := 4
  /-- How long a lease lives, in milliseconds. -/
  leaseTime : Nat := 300000
  /-- How long a partial sync waits for the lease, in milliseconds. -/
  leaseWait : Nat := 120000
deriving DecidableEq, Repr, Inhabited

/-- A way to find declarations, and its identity. -/
structure SymbolSource where
  /-- Its name and version. -/
  id : Extract.Extractor
  /-- The declarations in a content of a language, filtered. -/
  extract : (content language : String) → List Declaration

/-- The extraction by rules. -/
def SymbolSource.byRules : SymbolSource :=
  ⟨Extract.byRules, Extract.declarations⟩

/-- What a coordinator works with. -/
structure Setup (σ : Type) where
  /-- The host of the repositories. -/
  service : Remote.Service σ
  /-- The extractor. -/
  source : SymbolSource := .byRules
  /-- What it is told. -/
  options : Options := {}
  /-- What its leases are labelled with. -/
  label : String := "sync"

/-- Everything that a sync changes or depends on. -/
structure World (σ : Type) where
  /-- The store. -/
  store : Store
  /-- The state of the host. -/
  host : σ
  /-- The status of syncs. -/
  status : Registry := {}
  /-- The current time. -/
  now : Instant
  /-- Milliseconds that this process has run. -/
  clock : Nat := 0
  /-- The number of the next lease holder. -/
  serial : Nat := 0

namespace World

variable {σ : Type}

/-- A change of status. -/
def withStatus (w : World σ) (f : Registry → Registry) : World σ :=
  { w with status := f w.status }

/-- The progress of a repository here; if nothing goes on here but someone has its lease, then that
one is syncing. -/
def progress (w : World σ) (key : String) : Except Error Progress :=
  let here := w.status.get key
  if here.isActive then .ok here
  else match w.store.getLease key with
    | .error e => .error e
    | .ok (some l) =>
      if l.isExpired w.now then .ok here
      else .ok { state := .syncing, startedAt := some l.acquiredAt }
    | .ok none => .ok here

end World

/-! ## Leases -/

/-- The longest life of a lease, in milliseconds. -/
def maxLeaseTime : Nat := signedBound - 1

/-- The hexadecimal digits of a number, up to a width. -/
def hexPadded (width n : Nat) : List Char :=
  let digits := Nat.toDigits 16 n
  List.replicate (width - digits.length) '0' ++ digits

/-- A holder that no other acquisition has: the label and an id of its own. -/
def holderName (label : String) (serial : Nat) : String :=
  label ++ ":00000000-0000-4000-8000-" ++ String.ofList (hexPadded 12 serial)

section Lease

variable {σ : Type}

/-- Takes the lease of a repository for a new holder, if it is free. -/
def takeLease (w : World σ) (key label : String) (leaseTime : Nat) :
    Except Error (Option String) × World σ :=
  let holder := holderName label w.serial
  let w := { w with serial := w.serial + 1 }
  if maxLeaseTime < leaseTime then (.error .badLeaseTime, w)
  else
    let (taken, store) := w.store.acquireLease key holder w.now (w.now.plus leaseTime)
    (.ok (if taken then some holder else none), { w with store })

/-- Gives a lease up. -/
def dropLease (w : World σ) (key holder : String) : World σ :=
  { w with store := w.store.releaseLease key holder }

/-- Takes the lease of a repository, asking again until it is free or the wait ends.  Nobody else
does anything meanwhile. -/
def awaitLease (w : World σ) (key label : String) (leaseTime : Nat) (wait : Wait) :
    Except Error (Option String) × World σ :=
  match takeLease w key label leaseTime with
  | (.ok none, w') =>
    match _next : wait.next? w.clock with
    | none => (.ok none, w')
    | some t => awaitLease { w' with clock := t } key label leaseTime wait.grow
  | done => done
termination_by wait.deadline - w.clock
decreasing_by
  have := Wait.lt_of_next? _next
  simp only [Wait.grow]
  omega

end Lease

/-! ## Files -/

/-- What became of a file. -/
inductive FileOutcome
  /-- Written, with this many symbols. -/
  | written (symbols : Nat)
  /-- Left as it was. -/
  | unchanged
  /-- Deleted. -/
  | deleted
deriving DecidableEq, Repr

/-- A file to be indexed and the identity of its content, if it is known. -/
structure FileJob where
  /-- Where the file is. -/
  path : String
  /-- The identity of its content. -/
  known : Option String
deriving DecidableEq, Repr

/-- The write of a fetched file. -/
def SymbolSource.writeOf (y : SymbolSource) (path : String) (file : Remote.File) :
    Store.FileWrite :=
  { path := path
    content := file.content
    contentId := file.sha
    extractor := y.id.tag
    symbols := y.extract file.content (Language.ofPath path) }

section Index

variable {σ : Type} (c : Setup σ)

/-- Extracts the symbols of a fetched file and stores it. -/
def writeFetched (repo : RepoRow) (path : String) (file : Remote.File) (force : Bool)
    (w : World σ) : Except Error FileOutcome × World σ :=
  match w.store.writeFile repo.id (c.source.writeOf path file) w.now force with
  | (.error e, store) => (.error e, { w with store })
  | (.ok .unchanged, store) => (.ok .unchanged, { w with store })
  | (.ok (.written n), store) => (.ok (.written n), { w with store })

/-- Indexes a file.  If the identity of its content is known and stored, it is not fetched. -/
def indexFile (repo : RepoRow) (job : FileJob) (reference : String) (force : Bool) (w : World σ) :
    Except Error FileOutcome × World σ :=
  let current := job.known.any fun id =>
    w.store.isCurrent repo.id job.path id c.source.id.tag
  if !force && current then (.ok .unchanged, w)
  else match c.service.fetch repo.repoId job.path reference w.host with
    | (.error e, host) => (.error (.remote e), { w with host })
    | (.ok file, host) => writeFetched c repo job.path file force { w with host }

end Index

/-! ## Reports -/

/-- A file that failed. -/
structure FileError where
  /-- Where the file is. -/
  path : String
  /-- Why it failed. -/
  message : String
deriving DecidableEq, Repr

/-- What a run did. -/
structure Report where
  /-- The files it looked at. -/
  filesSeen : Nat := 0
  /-- The files it wrote. -/
  filesWritten : Nat := 0
  /-- The files it left as they were. -/
  filesUnchanged : Nat := 0
  /-- The files that failed. -/
  filesFailed : Nat := 0
  /-- The files it deleted. -/
  filesDeleted : Nat := 0
  /-- The revision it recorded. -/
  revision : Option String := none
  /-- Why files failed. -/
  errors : List FileError := []
deriving DecidableEq, Repr, Inhabited

/-- How a run ended. -/
inductive RunStatus
  /-- No file failed. -/
  | success
  /-- Some files failed. -/
  | someFailed
  /-- Every file failed. -/
  | allFailed
deriving DecidableEq, Repr

namespace Report

/-- The report with one more file. -/
def record (r : Report) (path : String) (result : Except Error FileOutcome) : Report :=
  let r := { r with filesSeen := r.filesSeen + 1 }
  match result with
  | .ok (.written _) => { r with filesWritten := r.filesWritten + 1 }
  | .ok .unchanged => { r with filesUnchanged := r.filesUnchanged + 1 }
  | .ok .deleted => { r with filesDeleted := r.filesDeleted + 1 }
  | .error e =>
    { r with filesFailed := r.filesFailed + 1, errors := r.errors ++ [⟨path, e.message⟩] }

/-- How the run ended. -/
def status (r : Report) : RunStatus :=
  if r.filesFailed = 0 then .success
  else if r.filesFailed = r.filesSeen then .allFailed
  else .someFailed

/-- The error to show for the run: the last one, if there was nothing else. -/
def statusError (r : Report) : Option String :=
  match r.status with
  | .allFailed => r.errors.getLast?.map fun e => e.path ++ ": " ++ e.message
  | _ => none

end Report

/-! ## Phases -/

/-- What came of the request for a sync. -/
inductive Outcome
  /-- The store has the head of the branch. -/
  | upToDate
  /-- The run ended with this report. -/
  | completed (report : Report)
  /-- Someone else syncs the repository. -/
  | alreadyRunning (progress : Progress)
deriving DecidableEq, Repr

/-- A run that holds the lease and has files to index. -/
structure Run where
  /-- The repository as it was when the run was asked for. -/
  repo : RepoRow
  /-- The holder of the lease. -/
  holder : String
  /-- The revision or branch that files are fetched from. -/
  reference : String
  /-- The revision to record. -/
  revision : Option String
  /-- Whether current files are written again. -/
  force : Bool
  /-- The report so far. -/
  report : Report
  /-- The files to index. -/
  jobs : List FileJob
deriving Repr

/-- Where a sync stands. -/
inductive Phase
  /-- It is over. -/
  | over (result : Except Error Outcome)
  /-- It has files to index. -/
  | indexing (run : Run)

/-- A partial sync that waits for the lease. -/
structure Waiting where
  /-- The repository as it was when the sync was asked for. -/
  repo : RepoRow
  /-- The changes to apply. -/
  changes : ChangeSet
  /-- The wait. -/
  wait : Wait
  /-- When it asks again. -/
  wake : Nat

/-- What came of asking for the lease. -/
inductive Attempt
  /-- There is nothing to wait for. -/
  | settled (phase : Phase)
  /-- Someone else has the lease. -/
  | waiting (x : Waiting)

section Steps

variable {σ : Type} (c : Setup σ)

/-- The stored row of a repository; a new one is stored with what the host says about it. -/
def resolveRepo (repo : RepoId) (w : World σ) : Except Error RepoRow × World σ :=
  match w.store.getRepo repo with
  | .error e => (.error e, w)
  | .ok (some row) => (.ok row, w)
  | .ok none =>
    match c.service.metadata repo w.host with
    | (.error e, host) => (.error (.remote e), { w with host })
    | (.ok metadata, host) =>
      let (row, store) := w.store.insertRepo repo metadata
      (row, { w with host, store })

/-- The end of a run that fails: the lease is given up and the failure shown. -/
def failRun (key holder : String) (e : Error) (w : World σ) : Phase × World σ :=
  let w := dropLease w key holder
  (.over (.error e), w.withStatus fun r => r.fail key w.now e.message)

/-- The first steps of a full sync that has the lease, up to the files. -/
def openFull (repo : RepoRow) (holder : String) (force : Bool) (w : World σ) : Phase × World σ :=
  let key := repo.fullName
  match c.service.head repo.repoId c.options.branch w.host with
  | (.error e, host) => failRun key holder (.remote e) { w with host }
  | (.ok head, host) =>
    let w := { w with host }
    if needsSync repo.lastRevision (w.store.countFiles repo.id) head force then
      let w := w.withStatus fun r => r.begin key w.now
      match c.service.tree repo.repoId head w.host with
      | (.error e, host) => failRun key holder (.remote e) { w with host }
      | (.ok tree, host) =>
        let entries := Remote.indexableEntries tree
        let w := ({ w with host } : World σ).withStatus fun r => r.setTotal key entries.length
        (.indexing
          { repo, holder, reference := head, revision := some head, force, report := {},
            jobs := entries.map fun e => ⟨e.path, some e.sha⟩ }, w)
    else
      let w := dropLease w key holder
      (.over (.ok .upToDate), w.withStatus fun r => r.clearQueued key)

/-- The first steps of a full sync. -/
def startFull (repo : RepoId) (force : Bool) (w : World σ) : Phase × World σ :=
  let key := repo.fullName
  match resolveRepo c repo w with
  | (.error e, w) => (.over (.error e), w.withStatus fun r => r.fail key w.now e.message)
  | (.ok row, w) =>
    match takeLease w key c.label c.options.leaseTime with
    | (.error e, w) => (.over (.error e), w)
    | (.ok none, w) =>
      let w := w.withStatus fun r => r.clearQueued key
      (.over ((w.progress key).map .alreadyRunning), w)
    | (.ok (some holder), w) => openFull c row holder force w

/-- Deletes a file and reports it. -/
def deletePath (repo : RepoRow) (path : String) (acc : Report × World σ) : Report × World σ :=
  let (_, store) := acc.2.store.deleteFile repo.id path
  (acc.1.record path (.ok .deleted), { acc.2 with store })

/-- What the lookups of changed paths have come to so far. -/
structure Lookups (σ : Type) where
  /-- The report so far. -/
  report : Report
  /-- The files to index, the last one first. -/
  jobs : List FileJob
  /-- Everything else. -/
  world : World σ

/-- Looks a changed path up.  One that the host does not have counts as deleted. -/
def lookUp (repo : RepoRow) (reference : String) (acc : Lookups σ) (path : String) : Lookups σ :=
  let w := acc.world
  let done (w : World σ) : World σ := w.withStatus fun r => r.fileDone repo.fullName
  match c.service.contentId repo.repoId path reference w.host with
  | (.ok id, host) => { acc with jobs := ⟨path, some id⟩ :: acc.jobs, world := { w with host } }
  | (.error e, host) =>
    let w := { w with host }
    if e.isNotFound then
      let (report, w) := deletePath repo path (acc.report, w)
      { acc with report, world := done w }
    else
      { acc with report := acc.report.record path (.error (.remote e)), world := done w }

/-- The first steps of a partial sync that has the lease, up to the files. -/
def openPartial (repo : RepoRow) (holder : String) (changes : ChangeSet) (w : World σ) :
    Phase × World σ :=
  let key := repo.fullName
  let reference := changes.revision.getD c.options.branch
  let w := w.withStatus fun r => r.begin key w.now
  let (report, w) := changes.deleted.foldl (fun acc p => deletePath repo p acc) ({}, w)
  let changed := changes.changed.filter Language.isIndexable
  let w := w.withStatus fun r => r.setTotal key changed.length
  let found := changed.foldl (lookUp c repo reference) ⟨report, [], w⟩
  (.indexing
    { repo, holder, reference, revision := changes.revision, force := false,
      report := found.report, jobs := found.jobs.reverse }, found.world)

/-- One attempt of a partial sync, at a time of its wait, to take the lease. -/
def attemptPartial (repo : RepoRow) (changes : ChangeSet) (wait : Wait) (time : Nat)
    (w : World σ) : Attempt × World σ :=
  let key := repo.fullName
  match takeLease w key c.label c.options.leaseTime with
  | (.error e, w) => (.settled (.over (.error e)), w)
  | (.ok (some holder), w) =>
    let (phase, w) := openPartial c repo holder changes w
    (.settled phase, w)
  | (.ok none, w) =>
    match wait.next? time with
    | some wake => (.waiting ⟨repo, changes, wait.grow, wake⟩, w)
    | none => (.settled (.over ((w.progress key).map .alreadyRunning)), w)

/-- The repository that a partial sync is asked for, which has to be stored. -/
def storedRepo (repo : RepoId) (w : World σ) : Except Error RepoRow :=
  match w.store.getRepo repo with
  | .error e => .error e
  | .ok none => .error (.repoNotFound repo.fullName)
  | .ok (some row) => .ok row

/-- The first steps of a partial sync. -/
def startPartial (repo : RepoId) (changes : ChangeSet) (w : World σ) : Attempt × World σ :=
  match storedRepo repo w with
  | .error e => (.settled (.over (.error e)), w)
  | .ok row => attemptPartial c row changes (.start w.clock c.options.leaseWait) w.clock w

/-- The next attempt of a partial sync that waits. -/
def Waiting.resume (x : Waiting) (w : World σ) : Attempt × World σ :=
  attemptPartial c x.repo x.changes x.wait x.wake w

/-- A file of a run and what became of it. -/
abbrev FileResult := String × Except Error FileOutcome

/-- Indexes files one after another. -/
def indexAll (repo : RepoRow) (reference : String) (force : Bool) :
    List FileJob → World σ → List FileResult × World σ
  | [], w => ([], w)
  | job :: jobs, w =>
    let (result, w) := indexFile c repo job reference force w
    let (results, w) := indexAll repo reference force jobs w
    ((job.path, result) :: results, w)

/-- Indexes the files of a run. -/
def Run.index (run : Run) (w : World σ) : List FileResult × World σ :=
  indexAll c run.repo run.reference run.force run.jobs w

/-- The end of a run whose files are done: the results are reported, the revision is recorded and
the lease is given up. -/
def Run.finish (run : Run) (results : List FileResult) (w : World σ) :
    Except Error Outcome × World σ :=
  let key := run.repo.fullName
  let report := results.foldl (fun r x => r.record x.1 x.2) run.report
  let w := results.foldl (fun w _ => w.withStatus fun r => r.fileDone key) w
  let w := { w with store := w.store.recordSync run.repo.id run.revision w.now }
  let report := { report with revision := run.revision }
  let w := dropLease w key run.holder
  (.ok (.completed report), w.withStatus fun r => r.finish key w.now report.statusError)

/-! ## Whole runs -/

/-- A run from a phase to its end, with nothing else happening meanwhile. -/
def complete (p : Phase) (w : World σ) : Except Error Outcome × World σ :=
  match p with
  | .over result => (result, w)
  | .indexing run =>
    let (results, w) := run.index c w
    run.finish results w

/-- A full sync of a repository. -/
def fullSync (repo : RepoId) (force : Bool) (w : World σ) : Except Error Outcome × World σ :=
  let (phase, w) := startFull c repo force w
  complete c phase w

/-- A partial sync of a repository. -/
def partialSync (repo : RepoId) (changes : ChangeSet) (w : World σ) :
    Except Error Outcome × World σ :=
  match storedRepo repo w with
  | .error e => (.error e, w)
  | .ok row =>
    let key := row.fullName
    let wait := Wait.start w.clock c.options.leaseWait
    match awaitLease w key c.label c.options.leaseTime wait with
    | (.error e, w) => (.error e, w)
    | (.ok none, w) => ((w.progress key).map .alreadyRunning, w)
    | (.ok (some holder), w) =>
      let (phase, w) := openPartial c row holder changes w
      complete c phase w

/-- Full syncs of repositories one after another, none of which stops the others. -/
def syncEach : List RepoRow → World σ → List (String × Except Error Outcome) × World σ
  | [], w => ([], w)
  | row :: rows, w =>
    let (result, w) := fullSync c row.repoId false w
    let (results, w) := syncEach rows w
    ((row.fullName, result) :: results, w)

/-- A full sync of every stored repository, by name. -/
def syncAll (w : World σ) : Except Error (List (String × Except Error Outcome)) × World σ :=
  match w.store.listRepos with
  | .error e => (.error e, w)
  | .ok rows =>
    let (results, w) := syncEach c rows w
    (.ok results, w)

end Steps

end ContextIndex.Sync
