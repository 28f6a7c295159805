import ContextIndex.Proofs.Store.Rows
import ContextIndex.Sync.Run

/-!
# The workers of a run

A run indexes its files by workers that share the store and the host.  A worker waits for one of
the permits, looks at the store, asks the host for the file and writes it; between two of these
steps the other workers may take theirs.  `Crew.turns` lets the workers take turns in a given order,
so that what is proved for every order is proved for every interleaving and every number of permits.

A run whose files are done one after another, as `indexAll` does them, is one of these orders
(`Run.index_isOrder`), and whatever one step of a crew preserves, every order of turns does
(`Crew.turns_induction`).
-/

namespace ContextIndex.Sync

/-! ## Taking turns -/

/-- How far a worker is. -/
inductive Stage
  /-- It waits for a permit. -/
  | waiting
  /-- It is about to ask for the file. -/
  | fetching
  /-- It is about to write the file. -/
  | fetched (file : Remote.File)
deriving DecidableEq, Repr

/-- Whether a worker has a permit. -/
def Stage.isActive : Stage → Bool
  | waiting => false
  | fetching | fetched _ => true

/-- A worker and the file it indexes. -/
structure Worker where
  /-- The file. -/
  job : FileJob
  /-- How far it is. -/
  stage : Stage := .waiting
deriving DecidableEq, Repr

/-- The workers of a run. -/
structure Crew (σ : Type) where
  /-- Those that are not done. -/
  workers : List Worker
  /-- What those that are done came to, the last one last. -/
  done : List (FileJob × Except Error FileOutcome) := []
  /-- Everything else. -/
  world : World σ

/-- What the turn of a worker comes to. -/
inductive Turn
  /-- It goes on from here. -/
  | on (stage : Stage)
  /-- It is done. -/
  | ended (result : Except Error FileOutcome)

/-- Whether a file is stored with the content it is known to have. -/
def FileJob.isCurrent (job : FileJob) (y : SymbolSource) (row : Option FileRow) : Bool :=
  job.known.any fun id => row.any fun f => f.derivesFrom id y.id.tag

section Turns

variable {σ : Type} (c : Setup σ) (run : Run)

/-- The turn of a worker. -/
def Worker.turn (x : Worker) (w : World σ) : Turn × World σ :=
  match x.stage with
  | .waiting =>
    if !run.force && x.job.isCurrent c.source (w.store.file? run.repo.id x.job.path) then
      (.ended (.ok .unchanged), w)
    else (.on .fetching, w)
  | .fetching =>
    match c.service.fetch run.repo.repoId x.job.path run.reference w.host with
    | (.error e, host) => (.ended (.error (.remote e)), { w with host })
    | (.ok file, host) => (.on (.fetched file), { w with host })
  | .fetched file =>
    let (result, w) := writeFetched c run.repo x.job.path file run.force w
    (.ended result, w)

namespace Crew

/-- The number of permits in use. -/
def active (k : Crew σ) : Nat :=
  k.workers.countP fun x => x.stage.isActive

/-- The turn of the worker at a place.  One that waits gets a permit only if there is one left. -/
def step (k : Crew σ) (place : Nat) : Crew σ :=
  match k.workers.drop place with
  | [] => k
  | x :: after =>
    let before := k.workers.take place
    if x.stage.isActive || decide (k.active < max 1 c.options.concurrency) then
      match x.turn c run k.world with
      | (.on stage, w) => { k with workers := before ++ { x with stage } :: after, world := w }
      | (.ended result, w) =>
        { workers := before ++ after, done := k.done ++ [(x.job, result)], world := w }
    else k

/-- Turns in an order. -/
def turns (order : List Nat) (k : Crew σ) : Crew σ :=
  order.foldl (step c run) k

end Crew

/-- The crew of a run that begins. -/
def Run.crew (w : World σ) : Crew σ :=
  { workers := run.jobs.map fun job => { job }, world := w }

/-- Indexes the files of a run by workers that take turns in an order; nothing if the order ends
before they do. -/
def Run.indexIn (order : List Nat) (w : World σ) : Option (List FileResult × World σ) :=
  let k := (run.crew w).turns c run order
  if k.workers.isEmpty then some (k.done.map fun x => (x.1.path, x.2), k.world) else none

end Turns

/-! ## What a turn can be -/

section Inversion

variable {σ : Type} (c : Setup σ) (run : Run)

/-- What the turn of a worker comes to, and the world after it. -/
inductive Worker.Acts (x : Worker) (w : World σ) : Turn → World σ → Prop
  | skip : x.stage = .waiting → run.force = false →
    x.job.isCurrent c.source (w.store.file? run.repo.id x.job.path) = true →
    Acts x w (.ended (.ok .unchanged)) w
  | begin : x.stage = .waiting →
    (!run.force && x.job.isCurrent c.source (w.store.file? run.repo.id x.job.path)) = false →
    Acts x w (.on .fetching) w
  | miss (e : RemoteError) (host : σ) : x.stage = .fetching →
    c.service.fetch run.repo.repoId x.job.path run.reference w.host = (.error e, host) →
    Acts x w (.ended (.error (.remote e))) { w with host }
  | get (file : Remote.File) (host : σ) : x.stage = .fetching →
    c.service.fetch run.repo.repoId x.job.path run.reference w.host = (.ok file, host) →
    Acts x w (.on (.fetched file)) { w with host }
  | write (file : Remote.File) (result : Except Error FileOutcome) (w' : World σ) :
    x.stage = .fetched file →
    writeFetched c run.repo x.job.path file run.force w = (result, w') →
    Acts x w (.ended result) w'

/-- What a write of a fetched file comes to. -/
theorem writeFetched_cases {repo : RepoRow} {path : String} {file : Remote.File} {force : Bool}
    {w w' : World σ} {result : Except Error FileOutcome}
    (h : writeFetched c repo path file force w = (result, w')) :
    (force = false ∧ w.store.isCurrent repo.id path file.sha c.source.id.tag = true ∧
      result = .ok .unchanged ∧ w' = w) ∨
    ((!force && w.store.isCurrent repo.id path file.sha c.source.id.tag) = false ∧
      ((¬w.store.HasRepo repo.id ∧ result = .error (.storage .unknownRepo) ∧ w' = w) ∨
        ∃ e id next, w.store.entry? repo.id = some e ∧
          result = .ok (.written (c.source.writeOf path file).rows.length) ∧
          w' = { w with store :=
            w.store.putRow repo.id ((c.source.writeOf path file).row id w.now) next })) := by
  unfold writeFetched at h
  split at h <;> next hw =>
    cases h
    rcases Store.writeFile_cases hw with
      ⟨hforce, hcur, hres, rfl⟩ | ⟨hneed, ⟨hnone, hres, rfl⟩ | ⟨e, id, next, he, hres, rfl⟩⟩ <;>
    cases hres
    first
      | exact .inl ⟨hforce, hcur, rfl, rfl⟩
      | exact .inr ⟨hneed, .inl ⟨hnone, rfl, rfl⟩⟩
      | exact .inr ⟨hneed, .inr ⟨e, id, next, he, rfl, rfl⟩⟩

theorem store_writeFetched (repo : RepoRow) (path : String) (file : Remote.File) (force : Bool)
    (w : World σ) : (writeFetched c repo path file force w).2 =
      { w with
        store := (w.store.writeFile repo.id (c.source.writeOf path file) w.now force).2 } := by
  unfold writeFetched
  split <;> next h => rw [h]

theorem Worker.acts_turn (x : Worker) (w : World σ) :
    x.Acts c run w (x.turn c run w).1 (x.turn c run w).2 := by
  obtain ⟨job, stage⟩ := x
  cases stage with
  | waiting =>
    simp only [Worker.turn]
    split
    · next h =>
      simp only [Bool.and_eq_true, Bool.not_eq_true'] at h
      exact .skip rfl h.1 h.2
    · next h => exact .begin rfl (by simpa using h)
  | fetching =>
    simp only [Worker.turn]
    split
    · next e host h => exact .miss e host rfl h
    · next file host h => exact .get file host rfl h
  | fetched file => exact .write file _ _ rfl rfl

/-- What a turn in a crew comes to. -/
inductive Crew.Steps (k : Crew σ) : Crew σ → Prop
  | idle : Steps k k
  | on (before after : List Worker) (x : Worker) (stage : Stage) (w : World σ) :
    k.workers = before ++ x :: after →
    (x.stage.isActive || decide (k.active < max 1 c.options.concurrency)) = true →
    x.Acts c run k.world (.on stage) w →
    Steps k { k with workers := before ++ { x with stage } :: after, world := w }
  | ended (before after : List Worker) (x : Worker) (result : Except Error FileOutcome)
    (w : World σ) : k.workers = before ++ x :: after →
    x.Acts c run k.world (.ended result) w →
    Steps k { workers := before ++ after, done := k.done ++ [(x.job, result)], world := w }

theorem Crew.steps_step (k : Crew σ) (place : Nat) : k.Steps c run (k.step c run place) := by
  unfold Crew.step
  split
  · exact .idle
  · next x after hdrop =>
    have hworkers : k.workers = k.workers.take place ++ x :: after := by
      rw [← hdrop, List.take_append_drop]
    simp only
    split
    · next hpermit =>
      have hacts := x.acts_turn c run k.world
      split <;> next hturn =>
        rw [hturn] at hacts
        first
          | exact .on _ _ x _ _ hworkers hpermit hacts
          | exact .ended _ _ x _ _ hworkers hacts
    · exact .idle

/-- What every turn keeps, every order of turns keeps. -/
theorem Crew.turns_induction (Inv : Crew σ → Prop)
    (hstep : ∀ k k', Inv k → k.Steps c run k' → Inv k') (order : List Nat) {k : Crew σ}
    (hk : Inv k) : Inv (k.turns c run order) := by
  induction order generalizing k with
  | nil => exact hk
  | cons place order ih => exact ih (hstep k _ hk (k.steps_step c run place))

/-- The workers at work, counted around one of them. -/
theorem Crew.active_eq {before after : List Worker} {x : Worker} {k : Crew σ}
    (hworkers : k.workers = before ++ x :: after) :
    k.active = before.countP (fun y => y.stage.isActive) +
      ((after.countP fun y => y.stage.isActive) + if x.stage.isActive then 1 else 0) := by
  unfold Crew.active
  rw [hworkers, List.countP_append, List.countP_cons]

/-- No more workers are at work than there are permits. -/
theorem Crew.active_turns_le (order : List Nat) {k : Crew σ}
    (hk : k.active ≤ max 1 c.options.concurrency) :
    (k.turns c run order).active ≤ max 1 c.options.concurrency := by
  refine Crew.turns_induction c run (fun k => k.active ≤ max 1 c.options.concurrency)
    (fun k k' hk hstep => ?_) order hk
  cases hstep with
  | idle => exact hk
  | on before after x stage w hworkers hpermit hacts =>
    have hactive := Crew.active_eq hworkers
    simp only [Crew.active, List.countP_append, List.countP_cons]
    cases hx : x.stage.isActive with
    | true =>
      rw [hx, if_pos rfl] at hactive
      split <;> omega
    | false =>
      rw [hx, Bool.false_or, decide_eq_true_eq] at hpermit
      split <;> omega
  | ended before after x result w hworkers hacts =>
    have hactive := Crew.active_eq hworkers
    simp only [Crew.active, List.countP_append]
    omega

end Inversion

/-! ## Syncs whose files are indexed in an order -/

section Syncs

variable {σ : Type} (c : Setup σ) (order : List Nat)

/-- A sync from a phase to its end, its files indexed in an order. -/
def completeIn (p : Phase) (w : World σ) : Option (Except Error Outcome × World σ) :=
  match p with
  | .over result => some (result, w)
  | .indexing run => (run.indexIn c order w).map fun x => run.finish x.1 x.2

/-- A full sync whose files are indexed in an order. -/
def fullSyncIn (repo : RepoId) (force : Bool) (w : World σ) :
    Option (Except Error Outcome × World σ) :=
  let (phase, w) := startFull c repo force w
  completeIn c order phase w

/-- A partial sync whose files are indexed in an order. -/
def partialSyncIn (repo : RepoId) (changes : ChangeSet) (w : World σ) :
    Option (Except Error Outcome × World σ) :=
  match storedRepo repo w with
  | .error e => some (.error e, w)
  | .ok row =>
    let key := row.fullName
    let wait := Wait.start w.clock c.options.leaseWait
    match awaitLease w key c.label c.options.leaseTime wait with
    | (.error e, w) => some (.error e, w)
    | (.ok none, w) => some ((w.progress key).map .alreadyRunning, w)
    | (.ok (some holder), w) =>
      let (phase, w) := openPartial c row holder changes w
      completeIn c order phase w

end Syncs

/-! ## One after another -/

section Sequence

variable {σ : Type} (c : Setup σ) (run : Run)

theorem Crew.turns_append (order order' : List Nat) (k : Crew σ) :
    k.turns c run (order ++ order') = (k.turns c run order).turns c run order' :=
  List.foldl_append

/-- With no permit in use, the first worker may take its turn. -/
theorem Crew.step_first {x : Worker} {rest : List Worker} {k : Crew σ}
    (hk : k.workers = x :: rest) (hrest : ∀ y ∈ rest, y.stage = .waiting) :
    k.step c run 0 =
      match x.turn c run k.world with
      | (.on stage, w) => { k with workers := { x with stage } :: rest, world := w }
      | (.ended result, w) =>
        { workers := rest, done := k.done ++ [(x.job, result)], world := w } := by
  have hidle : rest.countP (fun y => y.stage.isActive) = 0 := by
    rw [List.countP_eq_zero]
    intro y hy
    rw [hrest y hy]
    decide
  have hpermit : (x.stage.isActive || decide (k.active < max 1 c.options.concurrency)) = true := by
    cases hx : x.stage.isActive with
    | true => rfl
    | false =>
      have hzero : k.active = 0 := by
        unfold Crew.active
        rw [hk, List.countP_cons, hidle, hx]
        rfl
      simp only [Bool.false_or, decide_eq_true_eq]
      omega
  unfold Crew.step
  rw [hk, List.drop_zero]
  simp only [hpermit, if_true, List.take_zero, List.nil_append]

/-- The first worker of a crew that has not begun can do its file at a stretch. -/
theorem Crew.turns_first {job : FileJob} {rest : List Worker} {k : Crew σ}
    (hk : k.workers = { job } :: rest) (hrest : ∀ y ∈ rest, y.stage = .waiting) :
    ∃ order, k.turns c run order =
      { workers := rest
        done := k.done ++ [(job, (indexFile c run.repo job run.reference run.force k.world).1)]
        world := (indexFile c run.repo job run.reference run.force k.world).2 } := by
  have hcurrent : (job.known.any fun id =>
      k.world.store.isCurrent run.repo.id job.path id c.source.id.tag) =
        job.isCurrent c.source (k.world.store.file? run.repo.id job.path) := rfl
  unfold indexFile
  rw [hcurrent]
  -- One turn if the row is current, two if the fetch fails, and three if the file is written.
  by_cases hc : (!run.force && job.isCurrent c.source
      (k.world.store.file? run.repo.id job.path)) = true
  · refine ⟨[0], ?_⟩
    simp only [Crew.turns, List.foldl_cons, List.foldl_nil]
    rw [Crew.step_first c run hk hrest]
    simp only [Worker.turn, hc, if_true]
  · have hfirst : k.step c run 0 = { k with workers := { job, stage := .fetching } :: rest } := by
      rw [Crew.step_first c run hk hrest]
      simp only [Worker.turn, hc]
      rfl
    have hsecond := Crew.step_first c run
      (k := { k with workers := { job, stage := .fetching } :: rest }) rfl hrest
    rw [if_neg hc]
    cases hf : c.service.fetch run.repo.repoId job.path run.reference k.world.host with
    | mk answer host =>
      simp only [Worker.turn, hf] at hsecond
      cases answer with
      | error e =>
        refine ⟨[0, 0], ?_⟩
        simp only [Crew.turns, List.foldl_cons, List.foldl_nil]
        rw [hfirst, hsecond]
      | ok file =>
        refine ⟨[0, 0, 0], ?_⟩
        simp only [Crew.turns, List.foldl_cons, List.foldl_nil]
        rw [hfirst, hsecond, Crew.step_first c run rfl hrest]
        rfl

theorem Crew.turns_all (jobs : List FileJob) (k : Crew σ)
    (hk : k.workers = jobs.map fun job => { job }) :
    ∃ order, (k.turns c run order).workers = [] ∧
      (k.turns c run order).done.map (fun x => (x.1.path, x.2)) =
        k.done.map (fun x => (x.1.path, x.2)) ++
          (indexAll c run.repo run.reference run.force jobs k.world).1 ∧
      (k.turns c run order).world =
        (indexAll c run.repo run.reference run.force jobs k.world).2 := by
  induction jobs generalizing k with
  | nil =>
    refine ⟨[], hk, ?_, rfl⟩
    simp [Crew.turns, indexAll]
  | cons job jobs ih =>
    obtain ⟨first, hfirst⟩ := Crew.turns_first c run hk (by simp)
    obtain ⟨others, hw, hd, hworld⟩ := ih (k.turns c run first) (by rw [hfirst])
    refine ⟨first ++ others, ?_, ?_, ?_⟩
    · rw [Crew.turns_append, hw]
    · rw [Crew.turns_append, hd, hfirst, indexAll]
      simp
    · rw [Crew.turns_append, hworld, hfirst, indexAll]

/-- Doing the files one after another is one of the orders. -/
theorem Run.index_isOrder (w : World σ) :
    ∃ order, run.indexIn c order w = some (run.index c w) := by
  obtain ⟨order, hw, hd, hworld⟩ := Crew.turns_all c run run.jobs (run.crew w) rfl
  refine ⟨order, ?_⟩
  unfold Run.indexIn Run.index
  simp only [hw, hd, hworld]
  simp [Run.crew]

theorem complete_isOrder (p : Phase) (w : World σ) :
    ∃ order, completeIn c order p w = some (complete c p w) := by
  cases p with
  | «over» result => exact ⟨[], rfl⟩
  | indexing run =>
    obtain ⟨order, h⟩ := run.index_isOrder c w
    refine ⟨order, ?_⟩
    unfold completeIn complete
    simp only [h, Option.map_some]

/-- A full sync that does its files one after another is one of the full syncs. -/
theorem fullSync_isOrder (repo : RepoId) (force : Bool) (w : World σ) :
    ∃ order, fullSyncIn c order repo force w = some (fullSync c repo force w) :=
  complete_isOrder c _ _

/-- A partial sync that does its files one after another is one of the partial syncs. -/
theorem partialSync_isOrder (repo : RepoId) (changes : ChangeSet) (w : World σ) :
    ∃ order, partialSyncIn c order repo changes w = some (partialSync c repo changes w) := by
  unfold partialSyncIn partialSync
  cases storedRepo repo w with
  | error e => exact ⟨[], rfl⟩
  | ok row =>
    simp only
    cases awaitLease w row.fullName c.label c.options.leaseTime
        (.start w.clock c.options.leaseWait) with
    | mk taken w' =>
      cases taken with
      | error e => exact ⟨[], rfl⟩
      | ok holder =>
        cases holder with
        | none => exact ⟨[], rfl⟩
        | some holder => exact complete_isOrder c _ _

end Sequence

end ContextIndex.Sync
