import ContextIndex.Sync.Run

/-!
# The queue of syncs

A trigger puts a job into the queue and answers at once.  Jobs run beside each other: each one goes
from step to step, and between two steps of one the others may take theirs.  Jobs for one repository
are kept apart by its lease.  A full sync that finds it taken is dropped, and a partial sync waits.

A queue is a value: the jobs that nobody has started, the activities that are ready, in the order in
which they became so, and the waits.  `Queue.step` takes the next step of any ready activity.
`Queue.runUntil` always takes the first one and lets time pass only when none is ready.
-/

namespace ContextIndex.Sync

/-! ## Jobs -/

/-- Something to do. -/
inductive Job
  /-- A full sync. -/
  | full (repo : RepoId) (force : Bool)
  /-- A partial sync. -/
  | push (repo : RepoId) (changes : ChangeSet)
  /-- A full sync of every stored repository. -/
  | sweep
deriving DecidableEq, Repr

/-- The answer to a trigger. -/
inductive Trigger
  /-- The job is in the queue; its status is kept under this key. -/
  | accepted (key : String)
  /-- There is a job for the repository already. -/
  | alreadyRunning (progress : Progress)
  /-- There is nothing to do. -/
  | ignored (reason : String)
deriving DecidableEq, Repr

/-- What a job does next. -/
inductive Activity
  /-- It starts. -/
  | start (job : Job)
  /-- It asks for a lease again. -/
  | retry (x : Waiting)
  /-- It indexes the files of a run; the repositories of a sweep come after. -/
  | index (run : Run) (rest : List RepoRow)
  /-- It ends a run whose files are done. -/
  | finish (run : Run) (results : List FileResult) (rest : List RepoRow)

/-- What an activity leaves to be done. -/
inductive Next
  /-- Nothing. -/
  | done
  /-- Another activity. -/
  | ready (a : Activity)
  /-- A wait. -/
  | sleep (x : Waiting)

section Step

variable {σ : Type} (c : Setup σ)

/-- Full syncs one after another, up to the first one that has files to index. -/
def sweepFrom : List RepoRow → World σ → Next × World σ
  | [], w => (.done, w)
  | row :: rows, w =>
    match startFull c row.repoId false w with
    | (.over _, w) => sweepFrom rows w
    | (.indexing run, w) =>
      if run.jobs.isEmpty then sweepFrom rows (run.finish [] w).2
      else (.ready (.index run rows), w)

/-- What comes after a phase, with the repositories of a sweep after it.  A run without files ends
at once. -/
def Phase.next (p : Phase) (rest : List RepoRow) (w : World σ) : Next × World σ :=
  match p with
  | .over _ => sweepFrom c rest w
  | .indexing run =>
    if run.jobs.isEmpty then sweepFrom c rest (run.finish [] w).2
    else (.ready (.index run rest), w)

/-- What comes after an attempt of a partial sync. -/
def Attempt.next (t : Attempt) (w : World σ) : Next × World σ :=
  match t with
  | .settled p => p.next c [] w
  | .waiting x => (.sleep x, w)

/-- The next step of an activity. -/
def Activity.step (a : Activity) (w : World σ) : Next × World σ :=
  match a with
  | .start (.full repo force) =>
    let (p, w) := startFull c repo force w
    p.next c [] w
  | .start (.push repo changes) =>
    let (t, w) := startPartial c repo changes w
    t.next c w
  | .start .sweep =>
    match w.store.listRepos with
    | .error _ => (.done, w)
    | .ok rows => sweepFrom c rows w
  | .retry x =>
    let (t, w) := x.resume c w
    t.next c w
  | .index run rest =>
    let (results, w) := run.index c w
    (.ready (.finish run results rest), w)
  | .finish run results rest => sweepFrom c rest (run.finish results w).2

end Step

/-! ## The queue -/

/-- A queue of jobs. -/
structure Queue where
  /-- The jobs that nobody has started. -/
  inbox : List Job := []
  /-- The activities that are ready, the first one first. -/
  ready : List Activity := []
  /-- The waits, in the order in which they began. -/
  waits : List Waiting := []

namespace Queue

/-- The queue with what an activity leaves to be done at its end. -/
def put (q : Queue) : Next → Queue
  | .done => q
  | .ready a => { q with ready := q.ready ++ [a] }
  | .sleep x => { q with waits := q.waits ++ [x] }

/-- The activities whose wait is over, and the waits that go on. -/
def wakeDue (q : Queue) (clock : Nat) : Queue :=
  { q with
    ready := q.ready ++ (q.waits.filter fun x => decide (x.wake ≤ clock)).map .retry
    waits := q.waits.filter fun x => !decide (x.wake ≤ clock) }

/-- The jobs of the inbox made ready. -/
def openInbox (q : Queue) : Queue :=
  { q with inbox := [], ready := q.ready ++ q.inbox.map .start }

/-- The time at which the first wait is over. -/
def nextWake (q : Queue) : Option Nat :=
  (q.waits.map Waiting.wake).min?

section Run

variable {σ : Type} (c : Setup σ)

/-- A step of the ready activity at a place, if there is one. -/
def step (place : Nat) (q : Queue) (w : World σ) : Queue × World σ :=
  match q.ready[place]? with
  | none => (q, w)
  | some a =>
    let (next, w) := a.step c w
    (({ q with ready := q.ready.eraseIdx place } : Queue).put next, w)

/-- Steps of the first activity each, and time passed to the next wait when none is ready, until
nothing is left to do or `stop` would be reached.  `fuel` bounds the number of steps. -/
def runFor (stop : Option Nat) : Nat → Queue → World σ → Queue × World σ
  | 0, q, w => (q, w)
  | fuel + 1, q, w =>
    if q.ready.isEmpty then
      match q.nextWake with
      | none => (q, w)
      | some t =>
        if stop.any fun s => decide (s ≤ t) then (q, w)
        else runFor stop fuel (q.wakeDue t) { w with clock := t }
    else
      let (q, w) := step c 0 q w
      runFor stop fuel q w

/-- A bound on the steps that an activity takes, given how many repositories there may be. -/
def effort (repos leaseWait : Nat) : Activity → Nat
  | .start (.full _ _) => 3
  | .start (.push _ _) => leaseWait + 5
  | .start .sweep => 2 * repos + 1
  | .retry x => x.wait.deadline - x.wake + 4
  | .index _ rest => 2 * rest.length + 2
  | .finish _ _ rest => 2 * rest.length + 1

/-- A bound on the steps of a queue: every step of an activity may be followed by a wait. -/
def totalEffort (q : Queue) (w : World σ) : Nat :=
  let repos := w.store.repos.length + q.ready.length
  let wait := c.options.leaseWait
  let ready := total (q.ready.map (effort repos wait))
  let waits := total (q.waits.map fun x => effort repos wait (.retry x))
  2 * (ready + waits) + 1

/-- Runs the jobs for some milliseconds. -/
def runUntil (stop : Nat) (q : Queue) (w : World σ) : Queue × World σ :=
  let q := (q.wakeDue w.clock).openInbox
  let (q, w) := runFor c (some stop) (totalEffort c q w) q w
  (q, { w with clock := stop })

/-- Runs the jobs to their end. -/
def drain (q : Queue) (w : World σ) : World σ :=
  let q := (q.wakeDue w.clock).openInbox
  (runFor c none (totalEffort c q w) q w).2

/-! ## Triggers -/

/-- Asks for a full sync, unless one is queued or runs here. -/
def triggerFull (repo : RepoId) (force : Bool) (q : Queue) (w : World σ) :
    Trigger × Queue × World σ :=
  let key := repo.fullName
  match w.status.markQueued key with
  | (some p, _) => (.alreadyRunning p, q, w)
  | (none, status) =>
    (.accepted key, { q with inbox := q.inbox ++ [.full repo force] }, { w with status })

/-- Asks for a partial sync after a push, unless the push is to another branch or touches nothing. -/
def triggerPush (e : PushEvent) (q : Queue) : Except Error (Trigger × Queue) :=
  match e.repoId with
  | .error err => .error err
  | .ok repo =>
    let key := repo.fullName
    if !e.targetsBranch c.options.branch then
      .ok (.ignored ("push to " ++ key ++ " is not on " ++ c.options.branch), q)
    else if e.changeSet.isEmpty then
      .ok (.ignored ("push to " ++ key ++ " changed no files"), q)
    else .ok (.accepted key, { q with inbox := q.inbox ++ [.push repo e.changeSet] })

/-- Asks for a full sync of every stored repository. -/
def triggerAll (q : Queue) : Trigger × Queue :=
  (.accepted "*", { q with inbox := q.inbox ++ [.sweep] })

end Run

end Queue

end ContextIndex.Sync
