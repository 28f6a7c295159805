import ContextIndex.Proofs.Sync.Jobs

/-!
# Completed runs

A run that has files to index completes: it has ended each of them, has left every other row of its
repository alone and has recorded its revision (`completeIn_indexing`).  Its report is made of the
results of the files, and two orders of the same results make reports that differ in the order of
their errors alone (`Report.recordAll_agrees`).
-/

namespace ContextIndex.Sync

open ContextIndex.Store (Names WellFormed)

/-! ## Reports -/

/-- Reports with the same counters and revision, and the same errors in some order. -/
structure Report.Agrees (r r' : Report) : Prop where
  filesSeen : r.filesSeen = r'.filesSeen
  filesWritten : r.filesWritten = r'.filesWritten
  filesUnchanged : r.filesUnchanged = r'.filesUnchanged
  filesFailed : r.filesFailed = r'.filesFailed
  filesDeleted : r.filesDeleted = r'.filesDeleted
  revision : r.revision = r'.revision
  errors : r.errors.Perm r'.errors

/-- A report with all of these results. -/
def Report.recordAll (r : Report) (results : List FileResult) : Report :=
  results.foldl (fun r x => r.record x.1 x.2) r

section Report

variable {r r' r'' : Report}

theorem Report.Agrees.refl (r : Report) : r.Agrees r :=
  ⟨rfl, rfl, rfl, rfl, rfl, rfl, .refl _⟩

theorem Report.Agrees.trans (h : r.Agrees r') (h' : r'.Agrees r'') : r.Agrees r'' :=
  ⟨h.filesSeen.trans h'.filesSeen, h.filesWritten.trans h'.filesWritten,
    h.filesUnchanged.trans h'.filesUnchanged, h.filesFailed.trans h'.filesFailed,
    h.filesDeleted.trans h'.filesDeleted, h.revision.trans h'.revision, h.errors.trans h'.errors⟩

theorem Report.Agrees.record (h : r.Agrees r') (x : FileResult) :
    (r.record x.1 x.2).Agrees (r'.record x.1 x.2) := by
  obtain ⟨path, result⟩ := x
  have hseen : r.filesSeen + 1 = r'.filesSeen + 1 := congrArg (· + 1) h.filesSeen
  cases result with
  | error e =>
    exact ⟨hseen, h.filesWritten, h.filesUnchanged, congrArg (· + 1) h.filesFailed,
      h.filesDeleted, h.revision, h.errors.append_right _⟩
  | ok outcome =>
    cases outcome with
    | written n =>
      exact ⟨hseen, congrArg (· + 1) h.filesWritten, h.filesUnchanged, h.filesFailed,
        h.filesDeleted, h.revision, h.errors⟩
    | unchanged =>
      exact ⟨hseen, h.filesWritten, congrArg (· + 1) h.filesUnchanged, h.filesFailed,
        h.filesDeleted, h.revision, h.errors⟩
    | deleted =>
      exact ⟨hseen, h.filesWritten, h.filesUnchanged, h.filesFailed,
        congrArg (· + 1) h.filesDeleted, h.revision, h.errors⟩

theorem Report.Agrees.withRevision (h : r.Agrees r') (revision : Option String) :
    ({ r with revision } : Report).Agrees { r' with revision } :=
  ⟨h.filesSeen, h.filesWritten, h.filesUnchanged, h.filesFailed, h.filesDeleted, rfl, h.errors⟩

/-- Which of two files is reported first matters for the order of their errors alone. -/
theorem Report.record_comm (r : Report) (x z : FileResult) :
    ((r.record x.1 x.2).record z.1 z.2).Agrees ((r.record z.1 z.2).record x.1 x.2) := by
  obtain ⟨p, a⟩ := x
  obtain ⟨q, b⟩ := z
  cases a with
  | error e =>
    cases b with
    | error e' =>
      refine ⟨rfl, rfl, rfl, rfl, rfl, rfl, ?_⟩
      simp only [Report.record, List.append_assoc]
      exact (List.Perm.swap _ _ _).append_left _
    | ok outcome' => cases outcome' <;> exact .refl _
  | ok outcome =>
    cases b with
    | error e' => cases outcome <;> exact .refl _
    | ok outcome' => cases outcome <;> cases outcome' <;> exact .refl _

/-- The same results in another order make a report that agrees. -/
theorem Report.recordAll_agrees {results results' : List FileResult}
    (h : results.Perm results') :
    ∀ {r r' : Report}, r.Agrees r' → (r.recordAll results).Agrees (r'.recordAll results') := by
  have hmono (l : List FileResult) : ∀ {r r' : Report}, r.Agrees r' →
      (r.recordAll l).Agrees (r'.recordAll l) := by
    induction l with
    | nil => exact id
    | cons x l ih => exact fun h => ih (h.record x)
  induction h with
  | nil => exact id
  | cons x _ ih => exact fun h => ih (h.record x)
  | swap x z l =>
    exact fun h => hmono l ((Report.record_comm _ z x).trans ((h.record x).record z))
  | trans _ _ ih ih' => exact fun h => (ih h).trans (ih' (.refl _))

end Report

/-! ## The marker while files are indexed -/

section Marker

variable {σ : Type} {c : Setup σ} {run : Run}

theorem marker_writeFile (s : Store) (repo : RepoId) (r : Nat) (x : Store.FileWrite)
    (now : Instant) (force : Bool) :
    (s.writeFile r x now force).2.marker repo = s.marker repo := by
  cases hw : s.writeFile r x now force with
  | mk result s' =>
    rcases Store.writeFile_cases hw with
      ⟨-, -, -, rfl⟩ | ⟨-, ⟨-, -, rfl⟩ | ⟨e, id, next, -, -, rfl⟩⟩
    · rfl
    · rfl
    · exact Store.marker_modify s repo r (Store.keepsIdentity_put _) fun _ => rfl

/-- Indexing files leaves the marker alone. -/
theorem Run.indexIn_marker {order : List Nat} {w w' : World σ} {results : List FileResult}
    (h : run.indexIn c order w = some (results, w')) (repo : RepoId) :
    w'.store.marker repo = w.store.marker repo := by
  have hturns : ((run.crew w).turns c run order).world.store.marker repo = w.store.marker repo := by
    refine Crew.turns_induction c run
      (fun k => k.world.store.marker repo = w.store.marker repo) (fun k k' hk hstep => ?_)
      order rfl
    have hacts {x : Worker} {turn : Turn} {v : World σ} (h : x.Acts c run k.world turn v) :
        v.store.marker repo = k.world.store.marker repo := by
      cases h with
      | skip => rfl
      | begin => rfl
      | miss => rfl
      | get => rfl
      | write file result w' hstage hwrite =>
        have hstore := store_writeFetched c run.repo x.job.path file run.force k.world
        rw [hwrite] at hstore
        simp only at hstore
        rw [hstore]
        exact marker_writeFile _ _ _ _ _ _
    cases hstep with
    | idle => exact hk
    | on left right x stage v hworkers hpermit h => exact (hacts h).trans hk
    | ended left right x result v hworkers h => exact (hacts h).trans hk
  unfold Run.indexIn at h
  simp only at h
  split at h
  · cases h
    exact hturns
  · cases h

end Marker

/-! ## The end of a run -/

section Complete

variable {σ : Type} {c : Setup σ} {run : Run} {Valid : σ → Prop}
  {May : σ → String → Except RemoteError Remote.File → Prop}

theorem completeIn_isReport {order : List Nat} {w w' : World σ} {result : Except Error Outcome}
    (h : completeIn c order (.indexing run) w = some (result, w')) :
    Outcome.isReport result = true := by
  unfold completeIn at h
  obtain ⟨⟨results, w₁⟩, -, hfinish⟩ := Option.map_eq_some_iff.mp h
  have hresult := (Run.finish_eq run results w₁).1
  simp only at hfinish
  rw [hfinish] at hresult
  simp only at hresult
  rw [hresult]
  rfl

/-- A run that has files to index completes.  It has ended each of them, has left the other rows of
its repository alone and has recorded its revision. -/
theorem completeIn_indexing {repo : RepoId} {order : List Nat} {w w' : World σ}
    {result : Except Error Outcome}
    (hask : c.service.Answers run.repo.repoId run.reference Valid May)
    (hnodup : (run.jobs.map FileJob.path).Nodup) (hwf : w.store.WellFormed)
    (hnames : w.store.Names repo run.repo.id) (hv : Valid w.host)
    (h : completeIn c order (.indexing run) w = some (result, w')) :
    ∃ results : List FileResult,
      result = .ok (.completed { run.report.recordAll results with revision := run.revision }) ∧
      (results.map Prod.fst).Perm (run.jobs.map FileJob.path) ∧
      Valid w'.host ∧
      (∀ job ∈ run.jobs, ∃ r, (job.path, r) ∈ results ∧
        Ended c.source run.force (May w'.host job.path) job (w.store.rowAt repo job.path) r
          (w'.store.rowAt repo job.path)) ∧
      (∀ p, p ∉ run.jobs.map FileJob.path → w'.store.rowAt repo p = w.store.rowAt repo p) ∧
      w'.store.marker repo = run.revision.or (w.store.marker repo) := by
  unfold completeIn at h
  obtain ⟨⟨results, w₁⟩, hindex, hfinish⟩ := Option.map_eq_some_iff.mp h
  obtain ⟨hresult, hstore, hhost⟩ := Run.finish_eq run results w₁
  simp only at hfinish
  rw [hfinish] at hresult hstore hhost
  simp only at hresult hstore hhost
  have hindexed := Run.indexIn_indexed hask hnodup hv (hnames.hasRepo hwf) hindex
  have hmoves : Moves c Valid (fun _ => True) w w₁ :=
    Run.indexIn_moves hask.keeps (fun _ _ _ _ _ _ => trivial) hindex
  obtain ⟨hchanges, -⟩ := hmoves hv
  have hwf₁ := hchanges.wellFormed hwf
  have hnames₁ := hchanges.names hnames
  have hrow (p : String) : w'.store.rowAt repo p = w₁.store.file? run.repo.id p := by
    have hrecord := hwf₁.recordSync run.repo.id run.revision w₁.now
    rw [hstore, Store.rowAt_releaseLease, Store.rowAt_eq_file? hrecord
        (hnames₁.modify _ (Store.keepsIdentity_record _ _)), Store.file?_recordSync]
  have hbefore (p : String) : w.store.rowAt repo p = w.store.file? run.repo.id p :=
    Store.rowAt_eq_file? hwf hnames p
  refine ⟨results, hresult, hindexed.paths, hhost ▸ hindexed.valid, fun job hjob => ?_,
    fun p hp => ?_, ?_⟩
  · obtain ⟨r, hr, hended⟩ := hindexed.ended job hjob
    refine ⟨r, hr, ?_⟩
    rw [hrow, hbefore, hhost]
    exact hended
  · rw [hrow, hbefore]
    exact hindexed.others p hp
  · rw [hstore, Store.marker_releaseLease, Store.marker_recordSync hnames₁,
      Run.indexIn_marker hindex]

end Complete

end ContextIndex.Sync
