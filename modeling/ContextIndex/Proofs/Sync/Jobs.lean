import ContextIndex.Proofs.Sync.Moves

/-!
# What becomes of the files of a run

The workers of a run share a store and a host, and yet what becomes of a file depends on its own row
and on what the host answers for its own path.  `Ended` lists the ways a file can end.  An invariant
of a crew (`Crew.Sound`) carries it through every order of turns (`Run.indexIn_indexed`): the rows
of the files that are done have ended one of these ways, and every other row is as it was.

When the host has one answer for each path, the end of a file is determined (`Ended.unique`), and so
are the counters of the report and its errors (`Report.recordAll_agrees`).
-/

namespace ContextIndex.Remote

/-- What a service may answer for the paths of a repository at a reference.  It depends on the state
of the service; an answer that was allowed once stays allowed. -/
structure Service.Answers {σ : Type} (s : Service σ) (repo : RepoId) (reference : String)
    (Valid : σ → Prop) (May : σ → String → Except RemoteError File → Prop) : Prop where
  keeps : s.Keeps Valid
  stays : ∀ path answer, s.Keeps fun h => May h path answer
  answers : ∀ {h : σ} (path : String), Valid h →
    May (s.fetch repo path reference h).2 path (s.fetch repo path reference h).1

end ContextIndex.Remote

namespace ContextIndex.Sync

/-! ## The end of a file -/

/-- Whether a row before a run makes the fetch of a file needless. -/
def FileJob.isSettled (job : FileJob) (y : SymbolSource) (force : Bool) (before : Option FileRow) :
    Bool :=
  !force && job.isCurrent y before

/-- Whether a row makes the write of a fetched file needless. -/
def isSame (y : SymbolSource) (force : Bool) (file : Remote.File) (before : Option FileRow) :
    Bool :=
  !force && before.any fun f => f.derivesFrom file.sha y.id.tag

/-- How a file ends: its result and its row after the run, from its row before the run and an answer
that the host may give. -/
inductive Ended (y : SymbolSource) (force : Bool) (may : Except RemoteError Remote.File → Prop)
    (job : FileJob) (before : Option FileRow) : Except Error FileOutcome → Option FileRow → Prop
  | known : job.isSettled y force before = true →
    Ended y force may job before (.ok .unchanged) before
  | failed (e : RemoteError) : job.isSettled y force before = false → may (.error e) →
    Ended y force may job before (.error (.remote e)) before
  | same (file : Remote.File) : job.isSettled y force before = false → may (.ok file) →
    isSame y force file before = true → Ended y force may job before (.ok .unchanged) before
  | written (file : Remote.File) (id : Nat) (now : Instant) :
    job.isSettled y force before = false → may (.ok file) → isSame y force file before = false →
    Ended y force may job before (.ok (.written (y.writeOf job.path file).rows.length))
      (some ((y.writeOf job.path file).row id now))

section Ended

variable {y : SymbolSource} {force : Bool} {may may' : Except RemoteError Remote.File → Prop}
  {job : FileJob} {before after after' : Option FileRow}
  {result result' : Except Error FileOutcome}

theorem Ended.mono (hmay : ∀ answer, may answer → may' answer)
    (h : Ended y force may job before result after) :
    Ended y force may' job before result after := by
  cases h with
  | known hs => exact .known hs
  | failed e hs ha => exact .failed e hs (hmay _ ha)
  | same file hs ha hsame => exact .same file hs (hmay _ ha) hsame
  | written file id now hs ha hsame => exact .written file id now hs (hmay _ ha) hsame

/-- With one answer for its path, a file has one end, but for the number of its row and the time. -/
theorem Ended.unique {answer : Except RemoteError Remote.File}
    (h : Ended y force (· = answer) job before result after)
    (h' : Ended y force (· = answer) job before result' after') :
    result = result' ∧ after.map FileRow.core = after'.map FileRow.core := by
  cases h with
  | known hs =>
    cases h' with
    | known => exact ⟨rfl, rfl⟩
    | failed _ hs' => simp [hs] at hs'
    | same _ hs' => simp [hs] at hs'
    | written _ _ _ hs' => simp [hs] at hs'
  | failed e hs ha =>
    subst ha
    cases h' with
    | known hs' => simp [hs] at hs'
    | failed _ _ ha' => cases ha'; exact ⟨rfl, rfl⟩
    | same _ _ ha' => cases ha'
    | written _ _ _ _ ha' => cases ha'
  | same file hs ha hsame =>
    subst ha
    cases h' with
    | known => exact ⟨rfl, rfl⟩
    | failed _ _ ha' => cases ha'
    | same => exact ⟨rfl, rfl⟩
    | written _ _ _ _ ha' hsame' => cases ha'; simp [hsame] at hsame'
  | written file id now hs ha hsame =>
    subst ha
    cases h' with
    | known hs' => simp [hs] at hs'
    | failed _ _ ha' => cases ha'
    | same _ _ ha' hsame' => cases ha'; simp [hsame] at hsame'
    | written _ id' now' _ ha' => cases ha'; exact ⟨rfl, rfl⟩

/-- A row that spares a fetch is the row of the file that is known to be there. -/
theorem core_of_isSettled {Genuine : Remote.File → Prop} {file : Remote.File}
    (hrow : ∀ f ∈ before, Traced y Genuine job.path f) (hfree : CollisionFree Genuine)
    (hfile : Genuine file) (hknown : ∀ id ∈ job.known, id = file.sha)
    (h : job.isSettled y force before = true) :
    before.map FileRow.core = some (y.rowOf job.path file) := by
  unfold FileJob.isSettled FileJob.isCurrent at h
  simp only [Bool.and_eq_true, Option.any_eq_true] at h
  obtain ⟨-, id, hid, f, rfl, hf⟩ := h
  rw [Option.map_some, (hrow f rfl).core_eq hfree hfile (hknown id hid ▸ hf)]

/-- A row that spares a write is the row of the fetched file. -/
theorem core_of_isSame {Genuine : Remote.File → Prop} {path : String} {file : Remote.File}
    (hrow : ∀ f ∈ before, Traced y Genuine path f) (hfree : CollisionFree Genuine)
    (hfile : Genuine file) (h : isSame y force file before = true) :
    before.map FileRow.core = some (y.rowOf path file) := by
  unfold isSame at h
  simp only [Bool.and_eq_true, Option.any_eq_true] at h
  obtain ⟨-, f, rfl, hf⟩ := h
  rw [Option.map_some, (hrow f rfl).core_eq hfree hfile hf]

/-- If the host answers with a file and the identity known of it is the right one, then the row
after the run is the row of the file. -/
theorem Ended.core_eq {Genuine : Remote.File → Prop} {file : Remote.File}
    (hrow : ∀ f ∈ before, Traced y Genuine job.path f) (hfree : CollisionFree Genuine)
    (hfile : Genuine file) (hknown : ∀ id ∈ job.known, id = file.sha)
    (h : Ended y force (· = .ok file) job before result after) :
    after.map FileRow.core = some (y.rowOf job.path file) := by
  cases h with
  | known hsettled => exact core_of_isSettled hrow hfree hfile hknown hsettled
  | failed e hneed ha => cases ha
  | same file' hneed ha hsame =>
    cases ha
    exact core_of_isSame hrow hfree hfile hsame
  | written file' id now hneed ha hsame =>
    cases ha
    rw [Option.map_some, SymbolSource.core_row]

/-- A file whose fetch fails keeps its row. -/
theorem Ended.eq_of_error {e : RemoteError}
    (h : Ended y force (· = .error e) job before result after) :
    after = before := by
  cases h with
  | known => rfl
  | failed => rfl
  | same file hneed ha => cases ha
  | written file id now hneed ha => cases ha

end Ended

/-! ## Turns of a worker -/

section Turns

variable {σ : Type} {c : Setup σ} {run : Run} {Valid : σ → Prop}
  {May : σ → String → Except RemoteError Remote.File → Prop}

/-- What a worker on its way has found out about its file. -/
def Worker.Ready (y : SymbolSource) (force : Bool) (may : Except RemoteError Remote.File → Prop)
    (before : Option FileRow) (x : Worker) : Prop :=
  match x.stage with
  | .waiting => True
  | .fetching => x.job.isSettled y force before = false
  | .fetched file => x.job.isSettled y force before = false ∧ may (.ok file)

theorem Worker.Ready.mono {y : SymbolSource} {force : Bool}
    {may may' : Except RemoteError Remote.File → Prop} {before : Option FileRow} {x : Worker}
    (hmay : ∀ answer, may answer → may' answer) (h : x.Ready y force may before) :
    x.Ready y force may' before := by
  obtain ⟨job, stage⟩ := x
  cases stage with
  | waiting => exact h
  | fetching => exact h
  | fetched file => exact ⟨h.1, hmay _ h.2⟩

/-- A turn asks the host for a file at most. -/
theorem Worker.Acts.host {x : Worker} {w w' : World σ} {turn : Turn} {P : σ → Prop}
    (h : x.Acts c run w turn w') (hkeep : c.service.Keeps P) (hp : P w.host) : P w'.host := by
  cases h with
  | skip => exact hp
  | begin => exact hp
  | miss e host hstage hf =>
    have := hkeep.fetch run.repo.repoId x.job.path run.reference hp
    rwa [hf] at this
  | get file host hstage hf =>
    have := hkeep.fetch run.repo.repoId x.job.path run.reference hp
    rwa [hf] at this
  | write file result w' hstage hwrite =>
    have hstore := store_writeFetched c run.repo x.job.path file run.force w
    rw [hwrite] at hstore
    simp only at hstore
    rw [hstore]
    exact hp

variable (hask : c.service.Answers run.repo.repoId run.reference Valid May)

include hask

/-- A worker that goes on leaves the store alone and knows what it has to. -/
theorem Worker.Acts.ready {x : Worker} {stage : Stage} {w w' : World σ}
    (h : x.Acts c run w (.on stage) w') (hv : Valid w.host)
    (hx : x.Ready c.source run.force (May w.host x.job.path)
      (w.store.file? run.repo.id x.job.path)) :
    w'.store = w.store ∧
      ({ x with stage } : Worker).Ready c.source run.force (May w'.host x.job.path)
        (w.store.file? run.repo.id x.job.path) := by
  cases h with
  | begin hstage hneed => exact ⟨rfl, hneed⟩
  | get file host hstage hf =>
    have hmay := hask.answers x.job.path hv
    rw [hf] at hmay
    unfold Worker.Ready at hx
    rw [hstage] at hx
    exact ⟨rfl, hx, hmay⟩

/-- A worker that is done has ended its file, and has left every other file alone. -/
theorem Worker.Acts.ended {x : Worker} {result : Except Error FileOutcome} {w w' : World σ}
    (h : x.Acts c run w (.ended result) w') (hv : Valid w.host)
    (hstored : w.store.HasRepo run.repo.id)
    (hx : x.Ready c.source run.force (May w.host x.job.path)
      (w.store.file? run.repo.id x.job.path)) :
    w'.store.HasRepo run.repo.id ∧
      (∀ p, p ≠ x.job.path → w'.store.file? run.repo.id p = w.store.file? run.repo.id p) ∧
      Ended c.source run.force (May w'.host x.job.path) x.job
        (w.store.file? run.repo.id x.job.path) result
        (w'.store.file? run.repo.id x.job.path) := by
  unfold Worker.Ready at hx
  cases h with
  | skip hstage hforce hcur =>
    refine ⟨hstored, fun _ _ => rfl, .known ?_⟩
    unfold FileJob.isSettled
    rw [hforce, hcur]
    rfl
  | miss e host hstage hf =>
    have hmay := hask.answers x.job.path hv
    rw [hf] at hmay
    rw [hstage] at hx
    exact ⟨hstored, fun _ _ => rfl, .failed e hx hmay⟩
  | write file result w' hstage hwrite =>
    rw [hstage] at hx
    rcases writeFetched_cases c hwrite with
      ⟨hforce, hcur, rfl, rfl⟩ | ⟨hneed, ⟨hnone, -, -⟩ | ⟨e, id, next, he, rfl, rfl⟩⟩
    · refine ⟨hstored, fun _ _ => rfl, .same file hx.1 hx.2 ?_⟩
      unfold isSame
      rw [hforce]
      exact hcur
    · exact absurd hstored hnone
    · have hfile := Store.file?_putRow he ((c.source.writeOf x.job.path file).row id w.now) next
        run.repo.id
      refine ⟨?_, fun p hp => ?_, ?_⟩
      · exact hstored.modify run.repo.id (Store.keepsIdentity_put _)
      · show (w.store.putRow _ _ _).file? _ _ = _
        rw [hfile, if_neg fun h => hp h.2]
      · show Ended _ _ _ _ _ _ ((w.store.putRow _ _ _).file? _ _)
        rw [hfile, if_pos ⟨rfl, rfl⟩]
        exact .written file id w.now hx.1 hx.2 hneed

end Turns

/-! ## Crews -/

section Crews

variable {σ : Type} {c : Setup σ} {run : Run} {Valid : σ → Prop}
  {May : σ → String → Except RemoteError Remote.File → Prop}

/-- The workers of a run have kept to their files: those that are done have ended them, and every
other row is as it was before the run. -/
structure Crew.Sound (c : Setup σ) (run : Run) (Valid : σ → Prop)
    (May : σ → String → Except RemoteError Remote.File → Prop) (before : String → Option FileRow)
    (k : Crew σ) : Prop where
  jobs : (k.done.map Prod.fst ++ k.workers.map Worker.job).Perm run.jobs
  valid : Valid k.world.host
  stored : k.world.store.HasRepo run.repo.id
  ready : ∀ x ∈ k.workers,
    x.Ready c.source run.force (May k.world.host x.job.path) (before x.job.path)
  ended : ∀ d ∈ k.done, Ended c.source run.force (May k.world.host d.1.path) d.1
    (before d.1.path) d.2 (k.world.store.file? run.repo.id d.1.path)
  others : ∀ p, (∀ d ∈ k.done, d.1.path ≠ p) → k.world.store.file? run.repo.id p = before p

/-- No worker is at a file that is done. -/
theorem Crew.Sound.fresh {before : String → Option FileRow} {k : Crew σ}
    (hk : k.Sound c run Valid May before) (hnodup : (run.jobs.map FileJob.path).Nodup) {x : Worker}
    (hx : x ∈ k.workers) : ∀ d ∈ k.done, d.1.path ≠ x.job.path := by
  intro d hd heq
  have hnd := (hk.jobs.map FileJob.path).nodup_iff.mpr hnodup
  rw [List.map_append, List.nodup_append] at hnd
  refine hnd.2.2 d.1.path ?_ x.job.path ?_ heq
  · exact List.mem_map_of_mem (List.mem_map_of_mem hd)
  · exact List.mem_map_of_mem (List.mem_map_of_mem hx)

variable (hask : c.service.Answers run.repo.repoId run.reference Valid May)
  (hnodup : (run.jobs.map FileJob.path).Nodup)

include hask hnodup

theorem Crew.Sound.step {before : String → Option FileRow} {k k' : Crew σ}
    (hk : k.Sound c run Valid May before) (h : k.Steps c run k') :
    k'.Sound c run Valid May before := by
  cases h with
  | idle => exact hk
  | on left right x stage w hworkers hpermit hacts =>
    have hx : x ∈ k.workers := by simp [hworkers]
    -- Its file is not done, so the worker still finds the row that was there before the run.
    have hrow := hk.others x.job.path (hk.fresh hnodup hx)
    have hmay (p : String) (answer) : May k.world.host p answer → May w.host p answer :=
      hacts.host (hask.stays p answer)
    obtain ⟨hstore, hready⟩ := hacts.ready hask hk.valid (hrow.symm ▸ hk.ready x hx)
    refine ⟨?_, hacts.host hask.keeps hk.valid, hstore ▸ hk.stored, fun z hz => ?_, fun d hd => ?_,
      hstore ▸ hk.others⟩
    · simpa [hworkers] using hk.jobs
    · simp only [List.mem_append, List.mem_cons] at hz
      rcases hz with hz | rfl | hz
      · exact (hk.ready z (by simp [hworkers, hz])).mono (hmay _)
      · exact hrow ▸ hready
      · exact (hk.ready z (by simp [hworkers, hz])).mono (hmay _)
    · rw [hstore]
      exact (hk.ended d hd).mono (hmay _)
  | ended left right x result w hworkers hacts =>
    have hx : x ∈ k.workers := by simp [hworkers]
    have hrow := hk.others x.job.path (hk.fresh hnodup hx)
    have hmay (p : String) (answer) : May k.world.host p answer → May w.host p answer :=
      hacts.host (hask.stays p answer)
    obtain ⟨hstored, hothers, hended⟩ :=
      hacts.ended hask hk.valid hk.stored (hrow.symm ▸ hk.ready x hx)
    refine ⟨?_, hacts.host hask.keeps hk.valid, hstored, fun z hz => ?_, fun d hd => ?_,
      fun p hp => ?_⟩
    · refine List.Perm.trans ?_ hk.jobs
      simp only [hworkers, List.map_append, List.map_cons, List.map_nil, List.append_assoc,
        List.singleton_append]
      exact (List.perm_middle.symm).append_left _
    · refine (hk.ready z ?_).mono (hmay _)
      rw [hworkers]
      simp only [List.mem_append, List.mem_cons] at hz ⊢
      exact hz.imp id .inr
    · simp only [List.mem_append, List.mem_singleton] at hd
      rcases hd with hd | rfl
      · rw [hothers _ (hk.fresh hnodup hx d hd)]
        exact (hk.ended d hd).mono (hmay _)
      · exact hrow ▸ hended
    · -- A row that is neither that of the worker nor that of a file done before.
      have hne := hp (x.job, result) (by simp)
      rw [hothers p (Ne.symm hne)]
      exact hk.others p fun d hd => hp d (by simp [hd])

/-- What a run whose files are done has come to. -/
structure Run.Indexed (c : Setup σ) (run : Run) (Valid : σ → Prop)
    (May : σ → String → Except RemoteError Remote.File → Prop) (w : World σ)
    (results : List FileResult) (w' : World σ) : Prop where
  paths : (results.map Prod.fst).Perm (run.jobs.map FileJob.path)
  valid : Valid w'.host
  ended : ∀ job ∈ run.jobs, ∃ result, (job.path, result) ∈ results ∧
    Ended c.source run.force (May w'.host job.path) job (w.store.file? run.repo.id job.path) result
      (w'.store.file? run.repo.id job.path)
  others : ∀ p, p ∉ run.jobs.map FileJob.path →
    w'.store.file? run.repo.id p = w.store.file? run.repo.id p

/-- Whatever the order of turns, a run ends each of its files and leaves the others alone. -/
theorem Run.indexIn_indexed {order : List Nat} {w w' : World σ} {results : List FileResult}
    (hv : Valid w.host) (hstored : w.store.HasRepo run.repo.id)
    (h : run.indexIn c order w = some (results, w')) :
    run.Indexed c Valid May w results w' := by
  have hcrew : (run.crew w).Sound c run Valid May (w.store.file? run.repo.id) := by
    refine ⟨?_, hv, hstored, fun x hx => ?_, (fun d hd => nomatch hd), fun _ _ => rfl⟩
    · simp [Run.crew, Function.comp_def]
    · obtain ⟨job, -, rfl⟩ := List.mem_map.mp hx
      trivial
  have hsound := Crew.turns_induction c run _ (fun k k' hk hstep => hk.step hask hnodup hstep) order
    hcrew
  unfold Run.indexIn at h
  simp only at h
  split at h
  · next hdone =>
    rw [List.isEmpty_iff] at hdone
    cases h
    have hjobs := hsound.jobs
    rw [hdone, List.map_nil, List.append_nil] at hjobs
    refine ⟨?_, hsound.valid, fun job hjob => ?_, fun p hp => hsound.others p fun d hd heq => ?_⟩
    · simpa [Function.comp_def] using hjobs.map FileJob.path
    · obtain ⟨d, hd, rfl⟩ := List.mem_map.mp (hjobs.mem_iff.mpr hjob)
      exact ⟨d.2, List.mem_map.mpr ⟨d, hd, rfl⟩, hsound.ended d hd⟩
    · exact hp (heq ▸ List.mem_map_of_mem (hjobs.mem_iff.mp (List.mem_map_of_mem hd)))
  · cases h

end Crews

end ContextIndex.Sync
