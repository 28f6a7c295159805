import ContextIndex.Proofs.Sync.Undisturbed

/-!
# A queue at work

A desk is a queue of syncs with everything that is going on: the jobs that wait to be started, the
jobs that run, each call by call, and what has become of the others.  Its steps are those of the
queue.  Triggers put jobs in, jobs are started in the order of the triggers, and any job that runs
may take its next step.  Meanwhile the store, the host and the time may change at will, since other
processes have the store and the host, too (`Desk.Step`).

The queue that always takes the first ready activity, and lets time pass when there is none, is one
way to go on at a desk (`Queue.exists_shows`).
-/

namespace ContextIndex.Sync

/-- A job that was accepted. -/
structure Ticket where
  /-- The job. -/
  job : Job
  /-- What the clock showed when it was accepted. -/
  clock : Nat
deriving DecidableEq, Repr

/-- A queue of syncs at work. -/
structure Desk (σ : Type) where
  /-- Everything that syncs change or depend on. -/
  world : World σ
  /-- The jobs that wait to be started, in order. -/
  inbox : List Ticket := []
  /-- The jobs that run, and what each still has to do. -/
  running : List (Ticket × Script σ (List Exit)) := []
  /-- The jobs that are over, and how their syncs ended. -/
  ended : List (Ticket × List Exit) := []
  /-- Every job that was ever accepted. -/
  accepted : List Ticket := []

namespace Desk

variable {σ : Type}

/-- The desk with more jobs. -/
def accept (x : Desk σ) (jobs : List Job) (w : World σ) : Desk σ :=
  let tickets := jobs.map fun job => ⟨job, x.world.clock⟩
  { x with world := w, inbox := x.inbox ++ tickets, accepted := x.accepted ++ tickets }

/-- What can happen next.  The queue is shut down when no more triggers come and no job waits or
runs. -/
inductive Step (c : Setup σ) (x : Desk σ) : Desk σ → Prop
  | full (repo : RepoId) (force : Bool) (key : String) (q : Queue) (w : World σ) :
    Queue.triggerFull repo force {} x.world = (.accepted key, q, w) →
    Step c x (x.accept q.inbox w)
  | push (e : PushEvent) (key : String) (q : Queue) :
    Queue.triggerPush c e {} = .ok (.accepted key, q) →
    Step c x (x.accept q.inbox x.world)
  | sweep (key : String) (q : Queue) : Queue.triggerAll {} = (.accepted key, q) →
    Step c x (x.accept q.inbox x.world)
  | start (t : Ticket) (inbox : List Ticket) : x.inbox = t :: inbox →
    Step c x { x with inbox, running := x.running ++ [(t, Script.job c t.job)] }
  | work (before after : List (Ticket × Script σ (List Exit))) (t : Ticket)
    (s s' : Script σ (List Exit)) (w : World σ) : x.running = before ++ (t, s) :: after →
    Script.Step c (s, x.world) (s', w) →
    Step c x { x with world := w, running := before ++ (t, s') :: after }
  | finish (before after : List (Ticket × Script σ (List Exit))) (t : Ticket)
    (exits : List Exit) : x.running = before ++ (t, .ended exits) :: after →
    Step c x { x with running := before ++ after, ended := x.ended ++ [(t, exits)] }
  | others (store : Store) (host : σ) (now : Instant) (clock serial : Nat) :
    x.world.clock ≤ clock →
    Step c x { x with world := { x.world with store, host, now, clock, serial } }

/-- Steps one after another. -/
abbrev Steps (c : Setup σ) : Desk σ → Desk σ → Prop :=
  Relation.ReflTransGen (Step c)

/-- A desk where nothing has happened. -/
def fresh (w : World σ) : Desk σ :=
  { world := w }

end Desk

end ContextIndex.Sync
