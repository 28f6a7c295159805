import ContextIndex.Proofs.Sync.Accepted
import ContextIndex.Proofs.Sync.Counting
import ContextIndex.Proofs.Sync.Isolation

/-!
# Syncs that account for every file

A sync that completes has a report in which every file stands once, and shows in the end as many
files done as there were to look at (`sync_accounts`).  For a full sync these are the files of the
tree that the host gave, and for a partial one the changed files; what the change set deletes stands
in the report but is not shown.

The parts of a sync count what they do in the account of the run, and the report goes along: what is
shown as looked at and what was deleted at first is what the report has.
-/

namespace ContextIndex.Sync

open ContextIndex.Remote (Memory widgets memorySetup worldOf)

/-! ## Reports -/

/-- The report has this many files, and an error for each one that failed. -/
structure Report.Accounts (r : Report) (n : Nat) : Prop extends r.Counts n where
  errors : r.errors.length = r.filesFailed

theorem Report.accounts_empty : Report.Accounts {} 0 :=
  ⟨Report.counts_empty, rfl⟩

theorem Report.Accounts.record {r : Report} {n : Nat} (h : r.Accounts n) (path : String)
    (result : Except Error FileOutcome) : (r.record path result).Accounts (n + 1) := by
  refine ⟨h.toCounts.record path result, ?_⟩
  obtain e | outcome := result
  · simp [Report.record, h.errors]
  · cases outcome <;> exact h.errors

theorem Report.Accounts.recordAll {r : Report} {n : Nat} (h : r.Accounts n)
    (results : List FileResult) :
    (results.foldl (fun r x => r.record x.1 x.2) r).Accounts (n + results.length) := by
  induction results generalizing r n with
  | nil => exact h
  | cons x results ih =>
    rw [List.length_cons, Nat.add_comm results.length, ← Nat.add_assoc]
    exact ih (h.record x.1 x.2)

/-! ## Requests -/

/-- What a sync is asked for. -/
inductive Request
  /-- The head of the branch. -/
  | full (force : Bool)
  /-- The changes of a push. -/
  | apply (changes : ChangeSet)

/-- The host gives this answer when it is in one of these states. -/
def Told {σ α : Type} (Valid : σ → Prop) (f : σ → Remote.Reply σ α) (a : α) : Prop :=
  ∃ h, Valid h ∧ (f h).1 = .ok a

namespace Request

section

variable {σ : Type} (c : Setup σ) (repo : RepoId)

/-- The sync, call by call. -/
def script : Request → Script σ (Except Error Outcome)
  | full force => (Script.full c repo force).map Exit.result
  | apply changes => (Script.partialSync c repo changes).map Exit.result

/-- The sync when nobody interferes and its files are done in this order. -/
def runIn (order : List Nat) (w : World σ) : Request → Option (Except Error Outcome × World σ)
  | full force => fullSyncIn c order repo force w
  | apply changes => partialSyncIn c order repo changes w

/-- The files that the sync deletes before it looks at any. -/
def deleted : Request → Nat
  | full _ => 0
  | apply changes => changes.deleted.length

/-- A sync to this revision has this many files to look at: those of the tree that the host gives
for the head of the branch, or the changed ones. -/
def Total (Valid : σ → Prop) : Request → Option String → Nat → Prop
  | full _, revision, n => ∃ id head tree, id.fullName = repo.fullName ∧
    Told Valid (c.service.head id c.options.branch) head ∧
    Told Valid (c.service.tree id head) tree ∧
    revision = some head ∧ n = (Remote.indexableEntries tree).length
  | apply changes, revision, n =>
    revision = changes.revision ∧ n = (changes.changed.filter Language.isIndexable).length

/-- The report of a complete sync accounts for every file, and so does what is shown then. -/
structure Accounted (Valid : σ → Prop) (q : Request) (r : Report) (w : World σ) : Prop where
  seen : r.filesSeen = r.filesWritten + r.filesUnchanged + r.filesFailed + r.filesDeleted
  errors : r.errors.length = r.filesFailed
  files : ∃ total, q.Total c repo Valid r.revision total ∧ r.filesSeen = q.deleted + total ∧
    w.counts repo.fullName = (total, total)

end

end Request

namespace Script

variable {σ : Type} {key : String} {Valid : σ → Prop}

/-! ## The parts of a sync -/

/-- An account and a result fit together: a report has the files that were deleted at first and
those that were looked at, and none is left. -/
def Completes (Total : Option String → Nat → Prop) (deleted : Nat) (x : Account)
    (result : Except Error Outcome) : Prop :=
  ∀ r, result = .ok (.completed r) →
    ∃ n, x = .counting n 0 ∧ Total r.revision n ∧ r.Accounts (deleted + n)

variable {Total : Option String → Nat → Prop} {deleted : Nat}

theorem counts_progress (name : String) (x : Account) :
    (progress name).Counts key Valid (fun y _ => y = x) x := by
  refine (counts_read _ x).bind fun y here hy => ?_
  subst hy
  split
  · rfl
  · refine (counts_store (fun _ => rfl) (fun _ => rfl) y).bind fun z l hz => ?_
    subst hz
    split
    · rfl
    · rfl
    · exact (counts_read _ z).bind fun _ _ h => h

/-- A sync that finds another one at work has no report. -/
theorem completes_alreadyRunning (x : Account) (answer : Except Error Progress) :
    Completes Total deleted x (answer.map .alreadyRunning) := by
  cases answer with
  | error e => exact nofun
  | ok p => exact nofun

/-- What is done at the end of a sync does not touch its account. -/
theorem counts_conclude (holder : String) {result : Except Error Outcome} {x : Account}
    (h : Completes Total deleted x result) :
    (conclude key holder result).Counts key Valid
      (fun y exit => Completes Total deleted y exit.result) x := by
  have hrelease : (release key holder).Counts key Valid (fun y _ => y = x) x :=
    (counts_store (fun _ => rfl) (fun _ => rfl) x).bind fun _ _ h => h
  refine hrelease.bind fun y _ hy => ?_
  subst hy
  refine (counts_note fun w => .keep y ?_).bind fun z _ hz => hz ▸ h
  split
  · exact counts_finish _ _
  · exact counts_clearQueued
  · exact counts_fail _ _

theorem counts_noteFiles (results : List FileResult) (looked left : Nat) :
    (noteFiles key results).Counts key Valid
      (fun y _ => y = .counting (looked + results.length) left)
      (.counting looked (left + results.length)) := by
  induction results generalizing looked with
  | nil => rfl
  | cons result results ih =>
    refine (counts_noteFile looked (left + results.length)).bind fun y _ hy => ?_
    subst hy
    rw [List.length_cons, Nat.add_comm results.length, ← Nat.add_assoc]
    exact ih (looked + 1)

theorem counts_record {run : Run} (hname : run.repo.fullName = key) {looked : Nat}
    (hreport : run.report.Accounts (deleted + looked)) (results : List FileResult)
    (htotal : Total run.revision (looked + results.length)) :
    (record run results).Counts key Valid (Completes Total deleted)
      (.counting looked results.length) := by
  subst hname
  have hnotes : (noteFiles run.repo.fullName results).Counts run.repo.fullName Valid
      (fun y _ => y = .counting (looked + results.length) 0) (.counting looked results.length) := by
    simpa using counts_noteFiles results looked 0
  refine hnotes.bind fun y _ hy => ?_
  refine (counts_store (fun _ => rfl) (fun _ => rfl) y).bind fun z a hz => ?_
  subst hz
  cases a with
  | error e => exact nofun
  | ok u =>
    rintro r ⟨⟩
    have haccounts := hreport.recordAll results
    rw [Nat.add_assoc] at haccounts
    exact ⟨_, hy, htotal, ⟨haccounts.seen, haccounts.parts⟩, haccounts.errors⟩

theorem counts_index {run : Run} (hname : run.repo.fullName = key) {looked left : Nat}
    (hjobs : run.jobs.length = left) (hreport : run.report.Accounts (deleted + looked))
    (htotal : Total run.revision (looked + left)) :
    (index run).Counts key Valid (Completes Total deleted) (.counting looked left) := by
  refine ⟨hname, fun results hlength => ?_⟩
  have hlength' : results.length = left := by simpa [hjobs] using hlength
  subst hlength'
  exact counts_record hname hreport results htotal

theorem counts_delete (repo : RepoRow) (path : String) (x : Account) :
    (delete repo path).Counts key Valid (fun y _ => y = x) x :=
  counts_store (fun _ => rfl) (fun _ => rfl) x

/-- What is deleted is in the report, but it is not shown. -/
theorem counts_deleteAll (repo : RepoRow) (paths : List String) {report : Report} {n : Nat}
    (hreport : report.Accounts n) (x : Account) :
    (deleteAll repo paths report).Counts key Valid
      (fun y r => y = x ∧ r.Accounts (n + paths.length)) x := by
  induction paths generalizing report n with
  | nil => exact ⟨rfl, hreport⟩
  | cons path paths ih =>
    refine (counts_delete repo path x).bind fun y result hy => ?_
    subst hy
    rw [List.length_cons, Nat.add_comm paths.length, ← Nat.add_assoc]
    exact ih (hreport.record path result)

section

variable {c : Setup σ} (hkeep : c.service.Keeps Valid)
include hkeep

/-- Each path is looked at now, and stands in the report, or there is a job for it. -/
theorem counts_lookUpAll (repo : RepoRow) (reference : String) (paths : List String)
    {report : Report} (jobs : List FileJob) {looked : Nat}
    (hreport : report.Accounts (deleted + looked)) :
    (lookUpAll c repo reference paths report jobs).Counts repo.fullName Valid
      (fun y a => ∃ n, y = .counting n a.2.length ∧ a.1.Accounts (deleted + n) ∧
        n + a.2.length = looked + (jobs.length + paths.length))
      (.counting looked (jobs.length + paths.length)) := by
  induction paths generalizing report jobs looked with
  | nil => exact ⟨looked, rfl, hreport, rfl⟩
  | cons path paths ih =>
    have hdone (result : Except Error FileOutcome) :
        ((note fun _ r => r.fileDone repo.fullName).bind fun _ =>
          lookUpAll c repo reference paths (report.record path result) jobs).Counts repo.fullName
          Valid (fun y a => ∃ n, y = .counting n a.2.length ∧ a.1.Accounts (deleted + n) ∧
            n + a.2.length = looked + (jobs.length + (path :: paths).length))
          (.counting looked (jobs.length + (path :: paths).length)) := by
      refine (counts_noteFile looked (jobs.length + paths.length)).bind fun y _ hy => ?_
      subst hy
      have hlength : looked + (jobs.length + (path :: paths).length) =
          looked + 1 + (jobs.length + paths.length) := by
        rw [List.length_cons]
        omega
      rw [hlength]
      exact ih jobs (hreport.record path result)
    refine (counts_askHost (hkeep.contentId repo.repoId path reference) _).bind
      fun y a hy => ?_
    obtain ⟨rfl, -⟩ := hy
    split
    · next id =>
      have hlength : jobs.length + (path :: paths).length =
          (FileJob.mk path (some id) :: jobs).length + paths.length := by
        simp only [List.length_cons]
        omega
      rw [hlength]
      exact ih _ hreport
    · split
      · refine (counts_delete repo path _).bind fun y result hy => ?_
        subst hy
        exact hdone result
      · exact hdone _

/-- The row of a repository has its name. -/
theorem counts_resolve (repo : RepoId) (x : Account) : (resolve c repo).Counts key Valid
    (fun y a => y = x ∧ ∀ row, a = .ok row → row.fullName = repo.fullName) x := by
  refine (counts_askStore (P := fun a => ∀ row : RepoRow, a = .ok (some row) →
    row.fullName = repo.fullName)
    (fun _ => rfl) (fun _ => rfl) (fun _ => nofun) (fun _ _ => fullName_of_getRepo) x).bind
      fun y a hy => ?_
  obtain ⟨rfl, hrow⟩ := hy
  split
  · exact ⟨rfl, nofun⟩
  · next row =>
    refine ⟨rfl, ?_⟩
    rintro _ ⟨⟩
    exact hrow row rfl
  · refine (counts_askHost (hkeep.metadata repo) y).bind fun z a hz => ?_
    obtain ⟨rfl, -⟩ := hz
    split
    · exact ⟨rfl, nofun⟩
    · exact counts_askStore
        (P := fun a => ∀ row : RepoRow, a = .ok row → row.fullName = repo.fullName)
        (fun _ => rfl) (fun _ => rfl) (fun _ => nofun) (fun _ _ => fullName_of_insertRepo) z

theorem counts_runFull {repo : RepoId} {row : RepoRow} (hrepo : row.fullName = repo.fullName)
    (hname : row.fullName = key) (holder : String) (force : Bool) :
    (runFull c row holder force).Counts key Valid
      (Completes ((Request.full force).Total c repo Valid) 0) .waiting := by
  subst hname
  refine (counts_askHost (hkeep.head row.repoId c.options.branch) _).bind fun x a hx => ?_
  obtain ⟨rfl, h, hv, hhead⟩ := hx
  split
  · exact nofun
  · next head =>
    refine (counts_store (fun _ => rfl) (fun _ => rfl) _).bind fun x a hx => ?_
    subst hx
    split
    · exact nofun
    · split
      · refine (counts_note fun w => .begin (counts_begin w.now)).bind fun x _ hx => ?_
        subst hx
        refine (counts_askHost (hkeep.tree row.repoId head) _).bind fun x a hx => ?_
        obtain ⟨rfl, h', hv', htree⟩ := hx
        split
        · exact nofun
        · next tree =>
          refine (counts_note fun w => .total _ (counts_setTotal _)).bind fun x _ hx => ?_
          subst hx
          refine counts_index rfl (List.length_map _) Report.accounts_empty ?_
          exact ⟨row.repoId, head, tree, hrepo, ⟨h, hv, hhead⟩, ⟨h', hv', htree⟩, rfl,
            Nat.zero_add _⟩
      · exact nofun

theorem counts_runPartial {row : RepoRow} (hname : row.fullName = key) (repo : RepoId)
    (holder : String) (changes : ChangeSet) :
    (runPartial c row holder changes).Counts key Valid
      (Completes ((Request.apply changes).Total c repo Valid) changes.deleted.length) .begun := by
  subst hname
  refine (counts_deleteAll row changes.deleted Report.accounts_empty _).bind fun x report hx => ?_
  obtain ⟨rfl, hreport⟩ := hx
  rw [Nat.zero_add, ← Nat.add_zero changes.deleted.length] at hreport
  refine (counts_note fun w => .total _ (counts_setTotal _)).bind fun x _ hx => ?_
  subst hx
  have hfound := counts_lookUpAll hkeep row (changes.revision.getD c.options.branch)
    (changes.changed.filter Language.isIndexable) [] hreport
  simp only [List.length_nil, Nat.zero_add] at hfound
  refine hfound.bind fun x a hx => ?_
  obtain ⟨report, jobs⟩ := a
  obtain ⟨looked, rfl, haccounts, htotal⟩ := hx
  exact counts_index rfl List.length_reverse haccounts ⟨rfl, htotal⟩

end

variable {c : Setup σ}

theorem counts_askLease (x : Account) :
    (askLease c key).Counts key Valid (fun y _ => y = x) x := by
  have hworld (w : World σ) := And.intro
    (status_takeLease w key c.label c.options.leaseTime)
    (host_takeLease w key c.label c.options.leaseTime)
  refine counts_store (fun w => ?_) (fun w => ?_) x
  · split <;> next h => simpa [h] using (hworld w).1
  · split <;> next h => simpa [h] using (hworld w).2

theorem counts_awaitLease (wait : Wait) (since : Nat) (x : Account) :
    (awaitLease c key wait since).Counts key Valid (fun y _ => y = x) x := by
  induction wait, since using awaitLease.induct with
  | case1 wait since ih =>
    rw [awaitLease]
    refine (counts_askLease x).bind fun y a hy => ?_
    subst hy
    split
    · rfl
    · rfl
    · refine (counts_read World.clock y).bind fun z clock hz => ?_
      subst hz
      simp only
      split
      · rfl
      · next wake hnext => exact ih clock wake hnext

/-! ## Syncs -/

section

variable (hkeep : c.service.Keeps Valid)
include hkeep

theorem counts_full (repo : RepoId) (force : Bool) :
    (full c repo force).Counts repo.fullName Valid
      (fun y exit => Completes ((Request.full force).Total c repo Valid) 0 y exit.result)
      .waiting := by
  refine (counts_resolve hkeep repo _).bind fun x a hx => ?_
  obtain ⟨rfl, hrow⟩ := hx
  split
  · next e => exact (counts_note fun w => .keep _ (counts_fail w.now _)).bind fun _ _ _ => nofun
  · next row =>
    have hname : row.fullName = repo.fullName := hrow row rfl
    refine (counts_askLease _).bind fun x a hx => ?_
    subst hx
    split
    · exact nofun
    · refine (counts_note fun w => .keep _ counts_clearQueued).bind fun x _ _ => ?_
      exact (counts_progress _ x).bind fun y a _ => completes_alreadyRunning y a
    · next holder =>
      refine (counts_runFull hkeep hname hname holder force).bind fun y result hresult => ?_
      rw [hname]
      exact counts_conclude holder hresult

theorem counts_partialSync (repo : RepoId) (changes : ChangeSet) :
    (partialSync c repo changes).Counts repo.fullName Valid
      (fun y exit => Completes ((Request.apply changes).Total c repo Valid) changes.deleted.length y
        exit.result) .waiting := by
  refine (counts_askStore (P := fun a => ∀ row : RepoRow, a = .ok row →
    row.fullName = repo.fullName) (fun _ => rfl) (fun _ => rfl) (fun _ => nofun)
    (fun _ _ h => fullName_of_getRepo (getRepo_of_storedRepo h)) _).bind fun x a hx => ?_
  obtain ⟨rfl, hrow⟩ := hx
  split
  · exact nofun
  · next row =>
    have hname : row.fullName = repo.fullName := hrow row rfl
    refine (counts_read World.clock _).bind fun x start hx => ?_
    subst hx
    rw [← hname]
    refine (counts_awaitLease _ start _).bind fun x a hx => ?_
    subst hx
    split
    · exact nofun
    · exact (counts_progress _ _).bind fun y a _ => completes_alreadyRunning y a
    · next holder =>
      refine (counts_note fun w => .begin (counts_begin w.now)).bind fun x _ hx => ?_
      subst hx
      exact (counts_runPartial hkeep rfl repo holder changes).bind fun y result hresult =>
        counts_conclude holder hresult

end

end Script

namespace Request

variable {σ : Type} {c : Setup σ} {Valid : σ → Prop} {repo : RepoId} {q : Request}

theorem counts_script (hkeep : c.service.Keeps Valid) (repo : RepoId) (q : Request) :
    (q.script c repo).Counts repo.fullName Valid
      (Script.Completes (q.Total c repo Valid) q.deleted) .waiting := by
  cases q with
  | full force => exact (Script.counts_full hkeep repo force).bind fun _ _ h => h
  | apply changes => exact (Script.counts_partialSync hkeep repo changes).bind fun _ _ h => h

/-- A sync that nobody disturbs goes through the moments of its script. -/
theorem moments_runIn {order : List Nat} {w w' : World σ} {result : Except Error Outcome}
    (h : q.runIn c repo order w = some (result, w')) :
    Script.Moments c repo.fullName Valid (q.script c repo, w) (.ended result, w') := by
  cases q with
  | full force => exact (Script.steps_fullSyncIn c h).alone.moments
  | apply changes => exact (Script.alone_partialSyncIn c h).moments

theorem accounted_of_completes {x : Account} {r : Report} {w₀ w : World σ}
    (h : Script.Completes (q.Total c repo Valid) q.deleted x (.ok (.completed r)))
    (hx : x.Fits repo.fullName w₀ w) : q.Accounted c repo Valid r w := by
  obtain ⟨n, rfl, htotal, haccounts⟩ := h r rfl
  obtain ⟨⟨hseen, hparts⟩, herrors⟩ := haccounts
  exact ⟨by omega, herrors, n, htotal, hseen, hx⟩

end Request

section

variable {σ : Type} {c : Setup σ} {Valid : σ → Prop}

/-- Syncs account for every file.  The report of one that completes has each file once, and in the
end as many files are shown as done as there were to look at.  This holds when nobody interferes,
whatever the order in which files are done, and at each moment when others do, as long as they do
not touch what is shown of the repository.  At any moment nothing is shown of the run yet, or from
then on no more files are shown as done than there are. -/
theorem sync_accounts (hkeep : c.service.Keeps Valid) (repo : RepoId) (q : Request)
    (w₀ : World σ) (hv : Valid w₀.host) :
    (∀ order r w, q.runIn c repo order w₀ = some (.ok (.completed r), w) →
      q.Accounted c repo Valid r w) ∧
    ∀ s₁ w₁ s w,
      Script.Moments c repo.fullName Valid (q.script c repo, w₀) (s₁, w₁) →
      Script.Moments c repo.fullName Valid (s₁, w₁) (s, w) →
      (w₁.counts repo.fullName = w₀.counts repo.fullName ∨
        (w.counts repo.fullName).2 ≤ (w.counts repo.fullName).1) ∧
      ∀ r, s = .ended (.ok (.completed r)) → q.Accounted c repo Valid r w := by
  have hscript := Request.counts_script hkeep repo q
  have hnone : Account.waiting.Fits repo.fullName w₀ w₀ := rfl
  have hmoments (s₁ : Script σ (Except Error Outcome)) (w₁ : World σ)
      (s : Script σ (Except Error Outcome)) (w : World σ)
      (hfirst : Script.Moments c repo.fullName Valid (q.script c repo, w₀) (s₁, w₁))
      (hthen : Script.Moments c repo.fullName Valid (s₁, w₁) (s, w)) :
      (w₁.counts repo.fullName = w₀.counts repo.fullName ∨
        (w.counts repo.fullName).2 ≤ (w.counts repo.fullName).1) ∧
      ∀ r, s = .ended (.ok (.completed r)) → q.Accounted c repo Valid r w := by
    obtain ⟨hv₁, x, hx, hcounts, -⟩ := hscript.moments hkeep hv hnone hfirst
    obtain ⟨-, y, hy, hcounts', hbegun⟩ := hcounts.moments hkeep hv₁ hx hthen
    refine ⟨?_, ?_⟩
    · cases x with
      | waiting => exact .inl hx
      | begun => exact .inr (hy.le (hbegun nofun))
      | counting looked left => exact .inr (hy.le (hbegun nofun))
    · rintro r rfl
      exact Request.accounted_of_completes hcounts' hy
  refine ⟨fun order r w h => ?_, hmoments⟩
  exact (hmoments _ _ _ _ .refl (Request.moments_runIn h)).2 r rfl

end

theorem sync_accounts_halfReachable :
    ∃ r w, partialSyncIn memorySetup [1, 0, 1, 0, 0, 0] widgets threeChanges
        (worldOf halfReachable outdated) = some (.ok (.completed r), w) ∧
      r.filesSeen = 4 ∧
      r.filesSeen = r.filesWritten + r.filesUnchanged + r.filesFailed + r.filesDeleted ∧
      r.errors.length = r.filesFailed ∧ w.counts widgets.fullName = (3, 3) ∧
      ∀ s' w', Script.Moments memorySetup widgets.fullName
        (fun h => h.repos = [(widgets.fullName, halfReachable)])
        ((Request.apply threeChanges).script memorySetup widgets, worldOf halfReachable outdated)
        (s', w') → (w'.counts widgets.fullName).2 ≤ (w'.counts widgets.fullName).1 := by
  obtain ⟨r, w, h, -⟩ := exists_completed (P := fun _ => true) (y := partialSyncIn memorySetup
    [1, 0, 1, 0, 0, 0] widgets threeChanges (worldOf halfReachable outdated)) (by decide +kernel)
  obtain ⟨hcomplete, hmoments⟩ := sync_accounts (c := memorySetup)
    (Memory.service_keeps fun repos => repos = [(widgets.fullName, halfReachable)]) widgets
    (.apply threeChanges) (worldOf halfReachable outdated) rfl
  obtain ⟨hseen, herrors, total, ⟨-, rfl⟩, hfiles, hcounts⟩ := hcomplete _ r w h
  have hthree : (threeChanges.changed.filter Language.isIndexable).length = 3 := by decide +kernel
  rw [hthree] at hfiles hcounts
  refine ⟨r, w, h, hfiles, hseen, herrors, hcounts, fun s' w' hmoment => ?_⟩
  obtain hsame | hle := (hmoments s' w' s' w' hmoment .refl).1
  · -- What the run found is that nothing has been looked at.
    rw [hsame]
    exact Nat.le_refl 0
  · exact hle

end ContextIndex.Sync
