import ContextIndex.Instant

/-!
# Status of syncs

What this process does for each repository, for those who ask.  It keeps no sync away from another;
that is what leases are for.
-/

namespace ContextIndex.Sync

/-- What is going on for a repository. -/
inductive State
  /-- Nothing. -/
  | idle
  /-- A sync was accepted and has not started. -/
  | queued
  /-- A sync runs. -/
  | syncing
  /-- The last sync failed. -/
  | failed
deriving DecidableEq, Repr, Inhabited

/-- The name of a state. -/
def State.label : State → String
  | idle => "idle"
  | queued => "queued"
  | syncing => "syncing"
  | failed => "failed"

/-- How far the sync of a repository is. -/
structure Progress where
  /-- What is going on. -/
  state : State := .idle
  /-- When the last run began. -/
  startedAt : Option Instant := none
  /-- When it ended. -/
  finishedAt : Option Instant := none
  /-- The files it has to look at. -/
  filesTotal : Nat := 0
  /-- The files it has looked at. -/
  filesProcessed : Nat := 0
  /-- Why it failed. -/
  lastError : Option String := none
deriving DecidableEq, Repr, Inhabited

/-- Whether a sync is queued or runs. -/
def Progress.isActive (p : Progress) : Bool :=
  p.state == .queued || p.state == .syncing

/-- The progress of each repository of which there is anything to say. -/
structure Registry where
  /-- Progress by full name. -/
  entries : List (String × Progress) := []
deriving Repr, Inhabited

namespace Registry

/-- The progress of a repository; nothing goes on for an unknown one. -/
def get (r : Registry) (key : String) : Progress :=
  (r.entries.lookup key).getD {}

/-- A list of entries with the one of a key changed or added. -/
def putEntry (key : String) (p : Progress) : List (String × Progress) → List (String × Progress)
  | [] => [(key, p)]
  | e :: es => if e.1 == key then (key, p) :: es else e :: putEntry key p es

/-- A change to the progress of a repository. -/
def update (r : Registry) (key : String) (f : Progress → Progress) : Registry :=
  ⟨putEntry key (f (r.get key)) r.entries⟩

/-- The progress of a repository after a change to it is the changed progress. -/
theorem get_update (r : Registry) (key : String) (f : Progress → Progress) :
    (r.update key f).get key = f (r.get key) := by
  have put : ∀ es : List (String × Progress), ∀ p, (putEntry key p es).lookup key = some p := by
    intro es p
    induction es with
    | nil => simp [putEntry]
    | cons e es ih =>
      obtain ⟨k, q⟩ := e
      by_cases h : k = key
      · simp [putEntry, h]
      · have other : (key == k) = false := beq_eq_false_iff_ne.2 fun eq => h eq.symm
        simp [putEntry, h, List.lookup_cons, other, ih]
  unfold update
  rw [get, put]
  rfl

/-- Marks a repository as queued, unless it is active; then it gives the progress instead. -/
def markQueued (r : Registry) (key : String) : Option Progress × Registry :=
  let p := r.get key
  if p.isActive then (some p, r)
  else (none, r.update key fun p => { p with state := .queued, lastError := none })

/-- A run begins. -/
def begin (r : Registry) (key : String) (now : Instant) : Registry :=
  r.update key fun _ => { state := .syncing, startedAt := some now }

/-- The run has to look at this many files. -/
def setTotal (r : Registry) (key : String) (total : Nat) : Registry :=
  r.update key fun p => { p with filesTotal := total }

/-- The run has looked at one more file. -/
def fileDone (r : Registry) (key : String) : Registry :=
  r.update key fun p => { p with filesProcessed := p.filesProcessed + 1 }

/-- The run ended; an error is given if it did nothing but fail. -/
def finish (r : Registry) (key : String) (now : Instant) (error : Option String) : Registry :=
  r.update key fun p => { p with state := .idle, finishedAt := some now, lastError := error }

/-- The run failed. -/
def fail (r : Registry) (key : String) (now : Instant) (error : String) : Registry :=
  r.update key fun p => { p with state := .failed, finishedAt := some now, lastError := some error }

/-- Takes back the mark of a queued run that did not begin. -/
def clearQueued (r : Registry) (key : String) : Registry :=
  r.update key fun p => if p.state = .queued then { p with state := .idle } else p

end Registry

end ContextIndex.Sync
