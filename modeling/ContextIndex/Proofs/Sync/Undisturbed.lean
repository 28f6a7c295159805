import ContextIndex.Proofs.Sync.Phases
import ContextIndex.Proofs.Sync.Program

/-!
# Undisturbed syncs

A script to which nobody does anything comes to what the sync computes.  A full sync and an attempt
of a partial sync come to their files or to their end (`Script.advance_full`,
`Script.advance_partialFrom`), the workers of a run may take their turns in any order
(`Script.steps_indexIn`), and so whole syncs end as they should (`Script.steps_fullSyncIn`,
`Script.alone_partialSyncIn`).  An activity of a queue does a part of a script
(`Activity.steps_step`).
-/

namespace ContextIndex.Sync

namespace Script

variable {σ α β : Type}

@[simp] theorem advance_ask (f : World σ → α × World σ) (w : World σ) :
    (ask f).advance w = (.ended (f w).1, (f w).2) := rfl

@[simp] theorem advance_askStore (f : World σ → Except Error α × World σ) (w : World σ) :
    (askStore f).advance w = (.ended (f w).1, (f w).2) := rfl

@[simp] theorem advance_ask_bind (f : World σ → α × World σ) (k : α → Script σ β) (w : World σ) :
    ((ask f).bind k).advance w = (k (f w).1).advance (f w).2 := rfl

@[simp] theorem advance_askStore_bind (f : World σ → Except Error α × World σ)
    (k : Except Error α → Script σ β) (w : World σ) :
    ((askStore f).bind k).advance w = (k (f w).1).advance (f w).2 := rfl

@[simp] theorem advance_askHost_bind (f : σ → Remote.Reply σ α)
    (k : Except RemoteError α → Script σ β) (w : World σ) :
    ((askHost f).bind k).advance w =
      (k (f w.host).1).advance { w with host := (f w.host).2 } := rfl

@[simp] theorem advance_note_bind (f : Instant → Registry → Registry) (k : Unit → Script σ β)
    (w : World σ) : ((note f).bind k).advance w = (k ()).advance (w.withStatus (f w.now)) := rfl

@[simp] theorem advance_read_bind (f : World σ → α) (k : α → Script σ β) (w : World σ) :
    ((read f).bind k).advance w = (k (f w)).advance w := rfl

variable (c : Setup σ)

theorem advance_progress (key : String) (w : World σ) :
    (progress key : Script σ _).advance w = (.ended (w.progress key), w) := by
  unfold progress World.progress
  simp only [bind_eq, pure_eq, advance_read_bind]
  split
  · rfl
  · simp only [advance_askStore_bind]
    cases w.store.getLease key with
    | error e => rfl
    | ok l =>
      cases l with
      | none => rfl
      | some l =>
        simp only [advance_read_bind, advance_ended]
        split <;> rfl

theorem advance_resolve (repo : RepoId) (w : World σ) :
    (resolve c repo).advance w =
      (.ended (resolveRepo c repo w).1, (resolveRepo c repo w).2) := by
  unfold resolve resolveRepo
  simp only [bind_eq, pure_eq, advance_askStore_bind]
  cases w.store.getRepo repo with
  | error e => rfl
  | ok row =>
    cases row with
    | some row => rfl
    | none =>
      simp only [advance_askHost_bind]
      rcases c.service.metadata repo w.host with ⟨answer, host⟩
      cases answer <;> rfl

theorem advance_noteFiles (key : String) (results : List FileResult) (w : World σ) :
    (noteFiles key results).advance w =
      (.ended (), results.foldl (fun w _ => w.withStatus fun r => r.fileDone key) w) := by
  induction results generalizing w with
  | nil => rfl
  | cons result results ih => exact ih _

/-- What a sync does after its files. -/
def finish (run : Run) (results : List FileResult) : Script σ Exit :=
  (record run results).bind (conclude run.repo.fullName run.holder)

/-- What a sync does that has come to its files. -/
def fromFiles (run : Run) : Script σ Exit :=
  (index run).bind (conclude run.repo.fullName run.holder)

theorem advance_finish (run : Run) (results : List FileResult) (w : World σ) :
    (finish run results).advance w =
      (.ended (.ran (run.finish results w).1), (run.finish results w).2) := by
  unfold finish record
  simp only [bind_eq, bind_assoc]
  rw [advance_bind_of_ended (advance_noteFiles _ _ _)]
  rfl

/-- The rest of a sync that has come to a phase. -/
def rest (p : Phase) : Script σ (Except Error Outcome) :=
  match p with
  | .over result => .ended result
  | .indexing run => (fromFiles run).map Exit.result

theorem advance_runFull (row : RepoRow) (holder : String) (force : Bool) (w : World σ) :
    (((runFull c row holder force).bind (conclude row.fullName holder)).map Exit.result).advance w =
      (rest (openFull c row holder force w).1, (openFull c row holder force w).2) := by
  unfold runFull openFull
  simp only [bind_eq, pure_eq]
  rcases hhead : c.service.head row.repoId c.options.branch w.host with ⟨answer, host⟩
  cases answer with
  | error e =>
    simp only [map, bind_assoc, advance_askHost_bind, hhead]
    rfl
  | ok head =>
    simp only [map, bind_assoc, advance_askHost_bind, advance_askStore_bind, hhead]
    split
    · simp only [bind_assoc, advance_askHost_bind, advance_note_bind, World.withStatus]
      rcases htree : c.service.tree row.repoId head host with ⟨answer, host'⟩
      cases answer with
      | error e => rfl
      | ok tree =>
        simp only [bind_assoc, advance_note_bind, rest, fromFiles, map]
        rfl
    · rfl

theorem advance_full (repo : RepoId) (force : Bool) (w : World σ) :
    ((full c repo force).map Exit.result).advance w =
      (rest (startFull c repo force w).1, (startFull c repo force w).2) := by
  unfold full startFull
  simp only [bind_eq, pure_eq, map, bind_assoc]
  rw [advance_bind_of_ended (advance_resolve c repo w)]
  rcases resolveRepo c repo w with ⟨answer, w₁⟩
  cases answer with
  | error e => rfl
  | ok row =>
    simp only [fullFrom, askLease, bind_eq, pure_eq, bind_assoc, advance_askStore_bind]
    rcases takeLease w₁ repo.fullName c.label c.options.leaseTime with ⟨taken, w₂⟩
    cases taken with
    | error e => rfl
    | ok holder =>
      cases holder with
      | none =>
        simp only [bind_assoc, advance_note_bind]
        rw [advance_bind_of_ended (advance_progress _ _)]
        rfl
      | some holder =>
        have := advance_runFull c row holder force w₂
        simp only [map, bind_assoc] at this
        simpa only [bind_assoc] using this

/-! ## Partial syncs -/

theorem advance_deleteAll (repo : RepoRow) (paths : List String) (report : Report)
    (w : World σ) :
    (deleteAll repo paths report).advance w =
      (.ended (paths.foldl (fun acc p => deletePath repo p acc) (report, w)).1,
        (paths.foldl (fun acc p => deletePath repo p acc) (report, w)).2) := by
  induction paths generalizing report w with
  | nil => rfl
  | cons path paths ih => exact ih _ _

theorem advance_lookUpAll (repo : RepoRow) (reference : String) (paths : List String)
    (acc : Lookups σ) :
    (lookUpAll c repo reference paths acc.report acc.jobs).advance acc.world =
      (.ended ((paths.foldl (lookUp c repo reference) acc).report,
          (paths.foldl (lookUp c repo reference) acc).jobs),
        (paths.foldl (lookUp c repo reference) acc).world) := by
  induction paths generalizing acc with
  | nil => rfl
  | cons path paths ih =>
    rw [List.foldl_cons, ← ih, lookUpAll]
    unfold lookUp
    simp only [bind_eq, advance_askHost_bind]
    rcases c.service.contentId repo.repoId path reference acc.world.host with ⟨answer, host⟩
    cases answer with
    | ok id => rfl
    | error e =>
      simp only
      cases e.isNotFound <;> rfl

theorem advance_runPartial (row : RepoRow) (holder : String) (changes : ChangeSet) (w : World σ) :
    (((note fun now r => r.begin row.fullName now).bind fun _ =>
        (runPartial c row holder changes).bind (conclude row.fullName holder)).map
      Exit.result).advance w =
      (rest (openPartial c row holder changes w).1, (openPartial c row holder changes w).2) := by
  unfold runPartial openPartial
  simp only [bind_eq, map, bind_assoc, advance_note_bind]
  rw [advance_bind_of_ended (advance_deleteAll _ _ _ _)]
  rcases changes.deleted.foldl _ _ with ⟨report, w₁⟩
  simp only [advance_note_bind]
  rw [advance_bind_of_ended (advance_lookUpAll c row _ _ ⟨report, [], _⟩)]
  simp only [rest, fromFiles, map, bind_assoc]
  rfl

theorem clock_takeLease (w : World σ) (key label : String) (leaseTime : Nat) :
    (takeLease w key label leaseTime).2.clock = w.clock := by
  unfold takeLease
  split <;> rfl

/-- One attempt to take the lease, after which the wait is over or goes on. -/
theorem advance_awaitLease (key : String) (wait : Wait) {since : Nat} {w : World σ}
    (hclock : w.clock ≤ since) :
    (awaitLease c key wait since).advance w =
      match takeLease w key c.label c.options.leaseTime with
      | (.error e, w') => (.ended (.error e), w')
      | (.ok (some holder), w') => (.ended (.ok (.ok holder)), w')
      | (.ok none, w') =>
        match wait.next? since with
        | none => (.ended (.ok (.error (⟨w.store.lease? key, w.now⟩, since))), w')
        | some wake => (.sleep wake (awaitLease c key wait.grow wake), w') := by
  rw [awaitLease]
  simp only [bind_eq, pure_eq, askLease, advance_askStore_bind]
  have htime := clock_takeLease w key c.label c.options.leaseTime
  rcases htake : takeLease w key c.label c.options.leaseTime with ⟨taken, w'⟩
  rw [htake] at htime
  cases taken with
  | error e => rfl
  | ok holder =>
    cases holder with
    | some holder => rfl
    | none =>
      have hmax : max since w'.clock = since :=
        Nat.max_eq_left (Nat.le_trans (Nat.le_of_eq htime) hclock)
      simp only [advance_read_bind]
      split <;> next hnext =>
        rw [hmax] at hnext
        simp only [hnext, hmax]
        rfl

/-- The rest of a partial sync after an attempt to take the lease. -/
def afterAttempt (start : Nat) : Attempt → Script σ (Except Error Outcome)
  | .settled p => rest p
  | .waiting x =>
    .sleep x.wake ((partialFrom c x.repo x.changes x.wait start x.wake).map Exit.result)

theorem advance_partialFrom (row : RepoRow) (changes : ChangeSet) (wait : Wait) (start : Nat)
    {since : Nat} {w : World σ} (hclock : w.clock ≤ since) :
    ((partialFrom c row changes wait start since).map Exit.result).advance w =
      (afterAttempt c start (attemptPartial c row changes wait since w).1,
        (attemptPartial c row changes wait since w).2) := by
  unfold partialFrom attemptPartial
  simp only [bind_eq, pure_eq, map, bind_assoc]
  rw [advance_bind, advance_awaitLease c _ wait hclock]
  rcases takeLease w row.fullName c.label c.options.leaseTime with ⟨taken, w₁⟩
  cases taken with
  | error e => rfl
  | ok holder =>
    cases holder with
    | some holder =>
      have hrun := advance_runPartial c row holder changes w₁
      simp only [map, bind_assoc] at hrun
      simp only [ended_bind, bind_assoc]
      exact hrun
    | none =>
      cases wait.next? since with
      | none =>
        simp only [ended_bind, bind_assoc]
        rw [advance_bind_of_ended (advance_progress _ _)]
        rfl
      | some wake =>
        simp only [afterAttempt, partialFrom, map, bind_eq, bind_assoc]
        rfl

/-! ## Whole syncs -/

/-- Turns of a crew are steps of its script. -/
theorem steps_turns (run : Run) (next : List FileResult → Script σ α) (order : List Nat)
    (k : Crew σ) :
    Steps c (.crew run k.workers k.done next, k.world)
      (.crew run (k.turns c run order).workers (k.turns c run order).done next,
        (k.turns c run order).world) := by
  induction order generalizing k with
  | nil => exact .refl
  | cons place order ih =>
    exact .head (.turn run k _ next (k.steps_step c run place)) (ih (k.step c run place))

theorem steps_indexIn {run : Run} {order : List Nat} {w w' : World σ} {results : List FileResult}
    (h : run.indexIn c order w = some (results, w')) :
    Steps c (fromFiles run, w) (finish run results, w') := by
  unfold Run.indexIn at h
  simp only at h
  split at h
  · next hempty =>
    cases h
    have hturns := steps_turns c run
      (fun results => (record run results).bind (conclude run.repo.fullName run.holder)) order
      (run.crew w)
    rw [List.isEmpty_iff.mp hempty] at hturns
    exact .tail hturns (.join run _ _ _)
  · cases h

/-- A sync from a phase to its end, its files indexed in some order, is a run of its script. -/
theorem steps_rest {p : Phase} {order : List Nat} {w w' : World σ} {r : Except Error Outcome}
    (h : completeIn c order p w = some (r, w')) : Steps c (rest p, w) (.ended r, w') := by
  cases p with
  | «over» result =>
    cases h
    exact .refl
  | indexing run =>
    obtain ⟨⟨results, w₁⟩, hindex, hfinish⟩ := Option.map_eq_some_iff.mp h
    have hend := steps_advance c ((finish run results).map Exit.result) w₁
    have hadvance : ((finish run results).map Exit.result).advance w₁ = (.ended r, w') := by
      unfold map
      rw [advance_bind_of_ended (advance_finish run results w₁), hfinish]
      rfl
    rw [hadvance] at hend
    exact ((steps_indexIn c hindex).bind _).trans hend

/-- A full sync whose files are indexed in some order is a run of its script. -/
theorem steps_fullSyncIn {repo : RepoId} {force : Bool} {order : List Nat} {w w' : World σ}
    {r : Except Error Outcome} (h : fullSyncIn c order repo force w = some (r, w')) :
    Steps c ((full c repo force).map Exit.result, w) (.ended r, w') := by
  have hstart := steps_advance c ((full c repo force).map Exit.result) w
  rw [advance_full] at hstart
  exact hstart.trans (steps_rest c h)

/-- Steps of a script while nothing else happens but that time passes. -/
abbrev Alone : Script σ α × World σ → Script σ α × World σ → Prop :=
  Relation.ReflTransGen fun x y =>
    Step c x y ∨ ∃ time, x.2.clock ≤ time ∧ y = (x.1, { x.2 with clock := time })

variable {c}

theorem Steps.alone {x y : Script σ α × World σ} (h : Steps c x y) : Alone c x y := by
  induction h with
  | refl => exact .refl
  | tail _ hstep ih => exact ih.tail (.inl hstep)

theorem Alone.bind {s s' : Script σ α} {w w' : World σ} (h : Alone c (s, w) (s', w'))
    (k : α → Script σ β) : Alone c (s.bind k, w) (s'.bind k, w') := by
  refine h.lift (fun x => (x.1.bind k, x.2)) fun x y hstep => ?_
  rcases hstep with hstep | ⟨time, hle, rfl⟩
  · exact .inl (hstep.bind k)
  · exact .inr ⟨time, hle, rfl⟩

variable (c)

/-- Waiting for a lease alone comes to what asking for it at the times of the wait comes to. -/
theorem alone_awaitLease (key : String) (wait : Wait) (w : World σ) :
    ∃ a, Alone c (awaitLease c key wait w.clock, w)
        (.ended a, (Sync.awaitLease w key c.label c.options.leaseTime wait).2) ∧
      a.map Except.toOption = (Sync.awaitLease w key c.label c.options.leaseTime wait).1 := by
  fun_induction Sync.awaitLease w key c.label c.options.leaseTime wait with
  | case1 w wait w' h hnext =>
    have hsteps := (steps_advance c (awaitLease c key wait w.clock) w).alone
    rw [advance_awaitLease c key wait (Nat.le_refl _), h] at hsteps
    simp only [hnext] at hsteps
    exact ⟨_, hsteps, rfl⟩
  | case2 w wait w' h t hnext ih =>
    obtain ⟨a, hend, ha⟩ := ih
    refine ⟨a, ?_, ha⟩
    have hsteps := (steps_advance c (awaitLease c key wait w.clock) w).alone
    rw [advance_awaitLease c key wait (Nat.le_refl _), h] at hsteps
    simp only [hnext] at hsteps
    have hclock : w'.clock = w.clock := by
      rw [← clock_takeLease w key c.label c.options.leaseTime, h]
    have hlater : w'.clock ≤ t := by
      have := (Wait.lt_of_next? hnext).1
      omega
    exact hsteps.trans (.head (.inr ⟨t, hlater, rfl⟩)
      (.head (.inl (.wake t _ _ (Nat.le_refl t))) hend))
  | case3 w wait hr =>
    have hsteps := (steps_advance c (awaitLease c key wait w.clock) w).alone
    rw [advance_awaitLease c key wait (Nat.le_refl _)] at hsteps
    rcases htake : takeLease w key c.label c.options.leaseTime with ⟨taken, w'⟩
    rw [htake] at hsteps
    cases taken with
    | error e => exact ⟨_, hsteps, rfl⟩
    | ok holder =>
      cases holder with
      | some holder => exact ⟨_, hsteps, rfl⟩
      | none => exact absurd htake (hr w')

/-- A partial sync whose files are indexed in some order is a run of its script. -/
theorem alone_partialSyncIn {repo : RepoId} {changes : ChangeSet} {order : List Nat}
    {w w' : World σ} {r : Except Error Outcome}
    (h : partialSyncIn c order repo changes w = some (r, w')) :
    Alone c ((partialSync c repo changes).map Exit.result, w) (.ended r, w') := by
  unfold partialSyncIn at h
  unfold partialSync map
  simp only [bind_eq, pure_eq, bind_assoc]
  have hfound := (steps_of_advance c (advance_askStore (fun w => (storedRepo repo w, w)) w)).alone
  refine (hfound.bind _).trans ?_
  cases hrow : storedRepo repo w with
  | error e =>
    rw [hrow] at h
    cases h
    exact .refl
  | ok row =>
    rw [hrow] at h
    simp only [ended_bind, bind_assoc] at h ⊢
    have hclock := (steps_of_advance c (advance_ask (fun w => (World.clock w, w)) w)).alone
    refine (hclock.bind _).trans ?_
    simp only [ended_bind, partialFrom, bind_eq, pure_eq, bind_assoc]
    obtain ⟨a, hwait, ha⟩ := alone_awaitLease c row.fullName
      (.start w.clock c.options.leaseWait) w
    refine (hwait.bind _).trans ?_
    rcases hmodel : Sync.awaitLease w row.fullName c.label c.options.leaseTime
      (.start w.clock c.options.leaseWait) with ⟨taken, w₁⟩
    rw [hmodel] at h ha
    subst ha
    simp only [ended_bind]
    rcases a with e | stop | holder
    · cases h
      exact .refl
    · cases h
      simp only [bind_assoc]
      exact ((steps_of_advance c (advance_progress row.fullName _)).alone.bind _).trans .refl
    · have hrun := steps_advance c (((note fun now r => r.begin row.fullName now).bind fun _ =>
        (runPartial c row holder changes).bind (conclude row.fullName holder)).map Exit.result) w₁
      rw [advance_runPartial] at hrun
      simp only [map, bind_assoc] at hrun ⊢
      exact Steps.alone (hrun.trans (steps_rest c h))

end Script

/-! ## Activities of the queue -/

section Activities

open Script

variable {σ : Type} (c : Setup σ)

/-- What is left to do of a sweep, its results forgotten. -/
def restOfSweep (rows : List RepoRow) : Script σ Unit :=
  (sweep c rows).map fun _ => ()

/-- What an activity still has to do. -/
def Activity.script : Activity → Script σ Unit
  | .start j => (job c j).map fun _ => ()
  | .retry x => (partialFrom c x.repo x.changes x.wait 0 x.wake).map fun _ => ()
  | .index run rows => (fromFiles run).bind fun _ => restOfSweep c rows
  | .finish run results rows => (Script.finish run results).bind fun _ => restOfSweep c rows

/-- What is left to do after a step of an activity. -/
def Next.script : Next → Script σ Unit
  | .done => .ended ()
  | .ready a => a.script c
  | .sleep x => .sleep x.wake (Activity.script c (.retry x))

theorem steps_next {rows : List RepoRow}
    (hrows : ∀ w : World σ, Steps c (restOfSweep c rows, w)
      ((sweepFrom c rows w).1.script c, (sweepFrom c rows w).2)) (p : Phase) (w : World σ) :
    Steps c ((rest p).bind fun _ => restOfSweep c rows, w)
      ((p.next c rows w).1.script c, (p.next c rows w).2) := by
  cases p with
  | «over» result => exact hrows w
  | indexing run =>
    simp only [rest, map, bind_assoc, ended_bind, Phase.next]
    split
    · next hempty =>
      have hjoin : Steps c (fromFiles run, w) (Script.finish run [], w) := by
        unfold fromFiles index
        rw [List.isEmpty_iff.mp hempty]
        exact .tail .refl (.join run [] _ w)
      have hend := steps_of_advance c (advance_finish run [] w)
      exact (Steps.bind (hjoin.trans hend) _).trans (hrows _)
    · exact .refl

theorem sweepFrom_cons (row : RepoRow) (rows : List RepoRow) (w : World σ) :
    sweepFrom c (row :: rows) w =
      (startFull c row.repoId false w).1.next c rows (startFull c row.repoId false w).2 := by
  rw [sweepFrom]
  rcases startFull c row.repoId false w with ⟨p, w'⟩
  cases p <;> rfl

theorem full_bind (repo : RepoId) (force : Bool) (s : Script σ Unit) :
    ((full c repo force).bind fun _ => s) =
      ((full c repo force).map Exit.result).bind fun _ => s := by
  simp only [map, bind_assoc, ended_bind]

theorem steps_sweep (rows : List RepoRow) (w : World σ) :
    Steps c (restOfSweep c rows, w)
      ((sweepFrom c rows w).1.script c, (sweepFrom c rows w).2) := by
  induction rows generalizing w with
  | nil => exact .refl
  | cons row rows ih =>
    have hsplit : restOfSweep c (row :: rows) =
        (full c row.repoId false).bind fun _ => restOfSweep c rows := by
      simp only [restOfSweep, sweep, map, bind_eq, pure_eq, bind_assoc, ended_bind]
    rw [hsplit, full_bind, sweepFrom_cons]
    have hstart := steps_of_advance c (advance_full c row.repoId false w)
    exact (hstart.bind _).trans (steps_next c ih _ _)

/-- What a partial sync does does not depend on when it began to wait. -/
theorem partialFrom_forget (row : RepoRow) (changes : ChangeSet) (wait : Wait)
    (start start' since : Nat) :
    ((partialFrom c row changes wait start since).bind fun _ => .ended ()) =
      (partialFrom c row changes wait start' since).bind fun _ => .ended () := by
  simp only [partialFrom, bind_eq, pure_eq, bind_assoc]
  congr 1
  funext a
  rcases a with e | stop | holder
  · rfl
  · simp only [bind_assoc, ended_bind]
  · rfl

/-- What comes after an attempt of a partial sync, its result forgotten. -/
theorem steps_attempt (start : Nat) (t : Attempt) (w : World σ) :
    Steps c ((afterAttempt c start t).bind fun _ => .ended (), w)
      ((t.next c w).1.script c, (t.next c w).2) := by
  cases t with
  | settled p => exact steps_next c (steps_sweep c []) p w
  | waiting x =>
    have hforget := partialFrom_forget c x.repo x.changes x.wait start 0 x.wake
    simp only [afterAttempt, Script.bind, map, bind_assoc, hforget]
    exact .refl

theorem steps_partialFrom (row : RepoRow) (changes : ChangeSet) (wait : Wait) (start : Nat)
    {since : Nat} {w : World σ} (hclock : w.clock ≤ since) :
    Steps c ((partialFrom c row changes wait start since).bind fun _ => .ended (), w)
      (((attemptPartial c row changes wait since w).1.next c
          (attemptPartial c row changes wait since w).2).1.script c,
        ((attemptPartial c row changes wait since w).1.next c
          (attemptPartial c row changes wait since w).2).2) := by
  have hstart := (steps_of_advance c
    (advance_partialFrom c row changes wait start hclock)).bind fun _ => .ended ()
  simp only [map, bind_assoc, ended_bind] at hstart
  exact hstart.trans (steps_attempt c start _ _)

/-- A step of an activity is a run of its script.  A wait is not over after its time. -/
theorem Activity.steps_step (a : Activity) (w : World σ)
    (hwake : ∀ x, a = .retry x → w.clock ≤ x.wake) :
    Steps c (a.script c, w) ((a.step c w).1.script c, (a.step c w).2) := by
  cases a with
  | start j =>
    cases j with
    | full repo force =>
      have hstart := steps_of_advance c (advance_full c repo force w)
      have hsplit : Activity.script c (.start (.full repo force)) =
          ((full c repo force).map Exit.result).bind fun _ => restOfSweep c [] := by
        simp only [Activity.script, job, restOfSweep, sweep, map, bind_eq, pure_eq, bind_assoc,
          ended_bind]
      rw [hsplit]
      exact (hstart.bind _).trans (steps_next c (steps_sweep c []) _ _)
    | push repo changes =>
      simp only [Activity.script, job, Script.partialSync, map, bind_eq, pure_eq, bind_assoc,
        ended_bind, Activity.step, startPartial]
      have hfound := steps_of_advance c
        (advance_askStore (fun w => (storedRepo repo w, w)) w)
      refine (hfound.bind _).trans ?_
      cases storedRepo repo w with
      | error e => exact .refl
      | ok row =>
        simp only [ended_bind, bind_assoc]
        have hclock := steps_of_advance c (advance_ask (fun w => (World.clock w, w)) w)
        exact (hclock.bind _).trans (steps_partialFrom c row changes _ _ (Nat.le_refl _))
    | sweep =>
      simp only [Activity.script, job, map, bind_eq, bind_assoc]
      have hlist := steps_of_advance c (advance_askStore (fun w => (w.store.listRepos, w)) w)
      refine (hlist.bind _).trans ?_
      simp only [ended_bind, Activity.step]
      cases w.store.listRepos with
      | error e => exact .refl
      | ok rows => exact steps_sweep c rows w
  | retry x => exact steps_partialFrom c x.repo x.changes x.wait 0 (hwake x rfl)
  | index run rows =>
    obtain ⟨order, horder⟩ := run.index_isOrder c w
    exact (steps_indexIn c horder).bind _
  | finish run results rows =>
    have hend := steps_of_advance c (advance_finish run results w)
    exact (hend.bind _).trans (steps_sweep c rows _)

end Activities

end ContextIndex.Sync
