import ContextIndex.Proofs.Sync.Deployment

/-!
# What an answer of being up to date says

A full sync answers that the store is up to date if the marker is the head of the branch.  Every
step of a deployment keeps it sound (`Deployment.Sound.step`), and a sound deployment tells what the
answer is worth (`upToDate_covers`): each file of the tree is stored with its content unless it was
never covered or a push that names it was given up, and a stored path that the tree does not have is
one whose removal has not been applied.  Both exceptions happen (`upToDate_misses_files`), since a
partial sync moves the marker to the commit of its push whatever became of the pushes before it.
-/

namespace ContextIndex.Sync

open ContextIndex.Remote
open ContextIndex.Store (Names WellFormed)

section Phases

variable {σ : Type} {c : Setup σ} {repo : RepoId} {t : Timeline} {Valid : σ → Prop}
  {position : σ → Nat} {Genuine : Remote.File → Prop}

/-! ## Full syncs of a version -/

/-- A full sync that completes has indexed the tree of a version: a path of the repository was
caught up with it, or the tree had no file to index there. -/
theorem fullSyncIn_timeline {order : List Nat} {force : Bool} {w w' : World σ} {r : Report}
    (hfollows : c.service.Follows repo c.options.branch t Valid position)
    (hfree : CollisionFree Genuine)
    (hgenuine : ∀ v p file, t.tree v p = some file → Genuine file)
    (hwf : w.store.WellFormed) (hderived : Derived c.source Genuine w.store) (hv : Valid w.host)
    (h : fullSyncIn c order repo force w = some (.ok (.completed r), w')) :
    ∃ j, position w.host ≤ j ∧ j ≤ position w'.host ∧ r.revision = some (t.commit j) ∧
      w'.store.marker repo = some (t.commit j) ∧
      ∀ p, Caught c.source (t.Sees j (position w'.host) p) p (w.store.rowAt repo p)
          (w'.store.rowAt repo p) ∨
        (w'.store.rowAt repo p = w.store.rowAt repo p ∧
          (Language.isIndexable p = true → t.Sees j (position w'.host) p none)) := by
  obtain hover | ⟨run, w₁, hstart, hcomplete⟩ := fullSyncIn_cases h
  · cases (startFull_over hover).1
  obtain ⟨head, listing, host, host', hnames, hname, hhost, hhead, htree, href, hrev, hforce, -,
    hjobs⟩ := startFull_indexing hstart
  -- The head was asked for when the host was at some version.
  have hvalid := hhost Valid hfollows.keeps hv
  have hle := hhost _ (hfollows.later (position w.host)) (Nat.le_refl _)
  have hhead' := hfollows.head hname hvalid
  have hvalid' := hfollows.keeps.head run.repo.repoId c.options.branch hvalid
  have hle' := (hfollows.later (position w.host)).head run.repo.repoId c.options.branch hle
  rw [hhead] at hhead' hvalid' hle'
  have hcommit : head = t.commit (position host') := Except.ok.inj hhead'
  subst hcommit
  obtain ⟨v, listing', hjv, hv₁, hlisting, hlists⟩ :=
    hfollows.tree hname hvalid' (Nat.le_refl (position host'))
  have hvalid₁ := hfollows.keeps.tree run.repo.repoId (t.commit (position host')) hvalid'
  rw [htree] at hlisting hv₁ hvalid₁
  cases hlisting
  have hmoves : Moves c Valid Genuine w _ := startFull_moves hfollows.keeps repo force w
  have hquiet := startFull_quiet c repo force w
  rw [hstart] at hmoves hquiet
  have hwf₁ := (hmoves hv).1.wellFormed hwf
  have hpaths : run.jobs.map FileJob.path =
      (Remote.indexableEntries listing).map Remote.TreeEntry.path := by
    rw [hjobs, List.map_map]
    rfl
  have hserves := hfollows.serves (position host') hname
  obtain ⟨results, hresult, -, ⟨-, hj⟩, hended, hothers, hmarker⟩ :=
    completeIn_indexing (href ▸ hserves.answers) (hpaths ▸ hlists.distinct) hwf₁ hnames
      ⟨hvalid₁, Nat.le_trans hjv hv₁⟩ hcomplete
  have hlater : position w₁.host ≤ position w'.host := by
    have hmoves : Moves c (fun h => position w₁.host ≤ position h) (fun _ => True) w₁ w' :=
      completeIn_moves (hfollows.later _) (fun _ _ _ _ _ _ => trivial) hcomplete
    exact (hmoves (Nat.le_refl _)).2
  have hseen (p : String) : t.Sees (position host') (position w'.host) p (t.tree v p) :=
    ⟨v, hjv, Nat.le_trans hv₁ hlater, rfl⟩
  cases hresult
  refine ⟨position host', hle', hj, hrev, by rw [hmarker, hrev]; rfl, fun p => ?_⟩
  by_cases hp : p ∈ (Remote.indexableEntries listing).map Remote.TreeEntry.path
  · obtain ⟨e, he, rfl⟩ := List.mem_map.mp hp
    obtain ⟨file, hfile, hsha⟩ := hlists.sound e he
    have hjob : (⟨e.path, some e.sha⟩ : FileJob) ∈ run.jobs := by
      rw [hjobs]
      exact List.mem_map_of_mem he
    obtain ⟨q, -, hend⟩ := hended _ hjob
    rw [hquiet.rows] at hend
    refine .inl (hend.caught (hderived.traced repo e.path) hfree ?_ (hfile ▸ hseen e.path)
      (congrArg some hsha.symm))
    rintro file' ⟨i, -, -, hfile'⟩
    exact hgenuine i e.path file' hfile'.symm
  · refine .inr ⟨?_, fun hindexable => ?_⟩
    · rw [hothers p (hpaths ▸ hp)]
      exact hquiet.rows p
    · have hnone : t.tree v p = none := by
        cases hfile : t.tree v p with
        | none => rfl
        | some file =>
          obtain ⟨e, he, rfl⟩ := hlists.complete p file hfile hindexable
          exact absurd (List.mem_map_of_mem he) hp
      exact hnone ▸ hseen p

/-! ## Partial syncs of a push -/

/-- What an attempt of a partial sync comes to: it ends without a report, it waits, or it has the
lease and begins. -/
theorem attemptPartial_cases {row : RepoRow} {changes : ChangeSet} {wait : Wait} {time : Nat}
    {w w' : World σ} {attempt : Attempt}
    (h : attemptPartial c row changes wait time w = (attempt, w')) :
    (∃ r, attempt = .settled (.over r) ∧ Outcome.isReport r = false ∧
      w' = (takeLease w row.fullName c.label c.options.leaseTime).2) ∨
    (∃ x, attempt = .waiting x ∧ x.repo = row ∧ x.changes = changes ∧
      w' = (takeLease w row.fullName c.label c.options.leaseTime).2) ∨
    ∃ holder, attempt = .settled (openPartial c row holder changes
        (takeLease w row.fullName c.label c.options.leaseTime).2).1 ∧
      w' = (openPartial c row holder changes
        (takeLease w row.fullName c.label c.options.leaseTime).2).2 := by
  unfold attemptPartial at h
  simp only at h
  cases htake : takeLease w row.fullName c.label c.options.leaseTime with
  | mk taken w₁ =>
    rw [htake] at h
    cases taken with
    | error e =>
      cases h
      exact .inl ⟨_, rfl, rfl, rfl⟩
    | ok holder =>
      cases holder with
      | none =>
        simp only at h
        split at h
        · cases h
          exact .inr (.inl ⟨_, rfl, rfl, rfl, rfl⟩)
        · cases h
          exact .inl ⟨_, rfl, isReport_alreadyRunning _, rfl⟩
      | some holder =>
        cases h
        exact .inr (.inr ⟨holder, rfl, rfl⟩)

/-- What a partial sync that asks for the lease is about: the next push, which has come to the host,
and the stored repository. -/
theorem Deployment.Asks.cases {d : Deployment σ} {attempt : Attempt} {w : World σ}
    (hd : d.Sound c repo t Valid position Genuine) (h : d.Asks c repo t position (attempt, w)) :
    d.handed < position d.world.host ∧
      ((∃ e, attempt = .settled (.over (.error e)) ∧ w = d.world) ∨
        ∃ row wait time, d.world.store.Names repo row.id ∧ row.fullName = repo.fullName ∧
          attemptPartial c row (t.push d.handed) wait time d.world = (attempt, w)) := by
  unfold Deployment.Asks at h
  cases hwaiting : d.waiting with
  | none =>
    rw [hwaiting] at h
    obtain ⟨hlt, h⟩ := h
    refine ⟨hlt, ?_⟩
    unfold startPartial at h
    cases hrow : storedRepo repo d.world with
    | error e =>
      rw [hrow] at h
      cases h
      exact .inl ⟨e, rfl, rfl⟩
    | ok row =>
      rw [hrow] at h
      obtain ⟨entry, hentry, rfl⟩ := entry_of_getRepo (getRepo_of_storedRepo hrow)
      exact .inr ⟨_, _, _, ⟨entry, hentry, rfl⟩, fullName_of_entryNamed? hentry, h⟩
  | some x =>
    rw [hwaiting] at h
    obtain ⟨hlt, hpush, hnames, hname⟩ := hd.waiting x hwaiting
    refine ⟨hlt, .inr ⟨x.repo, x.wait, x.wake, hnames, hname, ?_⟩⟩
    rw [← hpush]
    exact h

/-- Every full sync of a sound deployment is one of its steps. -/
theorem Deployment.Sound.exists_full {d : Deployment σ} {order : List Nat} {force : Bool}
    {result : Except Error Outcome} {w : World σ}
    (hfollows : c.service.Follows repo c.options.branch t Valid position)
    (hfree : CollisionFree Genuine) (hgenuine : ∀ v p file, t.tree v p = some file → Genuine file)
    (hd : d.Sound c repo t Valid position Genuine)
    (h : fullSyncIn c order repo force d.world = some (result, w)) :
    ∃ log, d.Step c repo t Valid position { d with world := w, log } := by
  obtain hover | ⟨run, w₁, -, hcomplete⟩ := fullSyncIn_cases h
  · exact ⟨d.log, .full order force result w d.log h (.other result (startFull_over hover).1)⟩
  · have hreport := completeIn_isReport hcomplete
    cases result with
    | error e => cases hreport
    | ok outcome =>
      cases outcome with
      | upToDate => cases hreport
      | alreadyRunning p => cases hreport
      | completed r =>
        obtain ⟨j, -, -, hrevision, -⟩ := fullSyncIn_timeline hfollows hfree hgenuine hd.wellFormed
          hd.derived hd.valid h
        exact ⟨.indexed j :: d.log, .full order force _ w _ h (.completed r j hrevision)⟩

/-- A partial sync of the next push that does its files one after another is a step. -/
theorem Deployment.Step.pushed {d : Deployment σ} {deed : Deed}
    (hdeed : Deed.ofPush d.handed (partialSync c repo (t.push d.handed) d.world).1 = deed)
    (hwaiting : d.waiting = none) (hlt : d.handed < position d.world.host) :
    d.Step c repo t Valid position
      { world := (partialSync c repo (t.push d.handed) d.world).2
        handed := d.handed + 1
        log := deed :: d.log } := by
  subst hdeed
  obtain ⟨order, h⟩ := partialSync_isOrder c repo (t.push d.handed) d.world
  exact .push order _ _ hwaiting hlt h

/-! ## Steps keep a deployment sound -/

variable (hfollows : c.service.Follows repo c.options.branch t Valid position)
  (hgives : c.service.Gives Valid Genuine)

include hfollows hgives

/-- What a run keeps while it starts from a sound deployment. -/
theorem Moves.ofSound {d : Deployment σ} {w : World σ}
    (hd : d.Sound c repo t Valid position Genuine)
    (h : ∀ P : σ → Prop, c.service.Keeps P → c.service.Gives P Genuine →
      Moves c P Genuine d.world w) :
    Changes c.source Genuine d.world.store w.store ∧ Valid w.host ∧
      position d.world.host ≤ position w.host := by
  obtain ⟨hchanges, hv, hle⟩ := h (fun h => Valid h ∧ position d.world.host ≤ position h)
    (hfollows.keeps.and (hfollows.later _)) (fun id path ref _ hp => hgives id path ref hp.1)
    ⟨hd.valid, Nat.le_refl _⟩
  exact ⟨hchanges, hv, hle⟩

variable (hlawful : t.Lawful) (hfree : CollisionFree Genuine)
  (hgenuine : ∀ v p file, t.tree v p = some file → Genuine file)

include hlawful hfree hgenuine

/-- A partial sync that has the lease applies its push. -/
theorem Deployment.Sound.begun {d : Deployment σ} {w₁ w : World σ} {row : RepoRow}
    {holder : String} {order : List Nat} {result : Except Error Outcome}
    (hd : d.Sound c repo t Valid position Genuine) (hlt : d.handed < position d.world.host)
    (hnames : d.world.store.Names repo row.id) (hname : row.fullName = repo.fullName)
    (hwait : Waited c Genuine d.world w₁)
    (h : completeIn c order (openPartial c row holder (t.push d.handed) w₁).1
      (openPartial c row holder (t.push d.handed) w₁).2 = some (result, w)) :
    ({ world := w, handed := d.handed + 1, log := .ofPush d.handed result :: d.log } :
      Deployment σ).Sound c repo t Valid position Genuine := by
  obtain ⟨hchanges, hv, hle⟩ := Moves.ofSound hfollows hgives hd fun P hkeep hgive =>
    (hwait.moves P).trans ((openPartial_moves hkeep row holder (t.push d.handed) w₁).trans
      (completeIn_moves hkeep hgive h))
  obtain ⟨hwaitChanges, hwaitValid⟩ := hwait.moves Valid hd.valid
  have hrevision := hlawful.revision d.handed
  have hserves : c.service.Serves row.repoId
      ((t.push d.handed).revision.getD c.options.branch)
      (fun h => Valid h ∧ d.handed + 1 ≤ position h)
      fun h p file => t.Sees (d.handed + 1) (position h) p file := by
    rw [hrevision]
    exact hfollows.serves (d.handed + 1) hname
  obtain ⟨⟨r, rfl⟩, -, hmarker, hpaths⟩ := completeIn_partial hserves
    (fun _ p file ⟨v, _, _, hfile⟩ => hgenuine v p file hfile.symm) hfree
    ((hwaitChanges.derived hd.derived).traced repo) (hwaitChanges.wellFormed hd.wellFormed)
    (hnames.of_repos hwait.repos) (hlawful.distinct d.handed) ⟨hwaitValid, hwait.host ▸ hlt⟩ h
  refine hd.apply hlawful hchanges hv hlt hle ?_ fun p => ?_
  · rw [hmarker, hrevision]
    rfl
  · have := hpaths p
    rw [Store.rowAt_of_repos hwait.repos] at this
    exact this

omit hfollows hgives hlawful hfree hgenuine in
/-- Waiting for the lease keeps a deployment sound. -/
theorem Deployment.Sound.waited {d : Deployment σ} {w : World σ}
    (hd : d.Sound c repo t Valid position Genuine) (hwait : Waited c Genuine d.world w) :
    ({ d with world := w } : Deployment σ).Sound c repo t Valid position Genuine := by
  obtain ⟨hchanges, hv⟩ := hwait.moves Valid hd.valid
  exact hd.quiet (.of_repos hwait.repos) hchanges hv (hwait.host ▸ Nat.le_refl _)

omit hfollows hgives hlawful hfree hgenuine in
/-- A partial sync that has waited and ends without a report drops its push. -/
theorem Deployment.Sound.ended {d : Deployment σ} {w : World σ} {result : Except Error Outcome}
    (hd : d.Sound c repo t Valid position Genuine) (hlt : d.handed < position d.world.host)
    (hwait : Waited c Genuine d.world w) (hreport : Outcome.isReport result = false) :
    ({ world := w, handed := d.handed + 1, log := .ofPush d.handed result :: d.log } :
      Deployment σ).Sound c repo t Valid position Genuine := by
  have hdrop := (hd.waited hwait).drop (hwait.host ▸ hlt)
  unfold Deed.ofPush
  rw [hreport]
  exact hdrop

/-- A full sync leaves a deployment sound, whatever it comes to. -/
theorem Deployment.Sound.fullStep {d : Deployment σ} {order : List Nat} {force : Bool}
    {result : Except Error Outcome} {w : World σ} {log : List Deed}
    (hd : d.Sound c repo t Valid position Genuine)
    (h : fullSyncIn c order repo force d.world = some (result, w))
    (hlog : Logged t d.log result log) :
    ({ d with world := w, log } : Deployment σ).Sound c repo t Valid position Genuine := by
  obtain ⟨hchanges, hv, hle⟩ := Moves.ofSound hfollows hgives hd fun P hkeep hgive =>
    fullSyncIn_moves hkeep hgive h
  cases hlog with
  | completed r j hrevision =>
    obtain ⟨i, hi, hi', hrevision', hmarker, hpaths⟩ := fullSyncIn_timeline hfollows hfree
      hgenuine hd.wellFormed hd.derived hd.valid h
    have hij : i = j := hlawful.fresh i j (Option.some.inj (hrevision'.symm.trans hrevision))
    subst hij
    exact hd.full hchanges hv hi hi' hmarker hpaths
  | other _ hreport =>
    obtain hover | ⟨run, w₁, -, hcomplete⟩ := fullSyncIn_cases h
    · have hquiet := startFull_quiet c repo force d.world
      rw [hover] at hquiet
      exact hd.quiet hquiet hchanges hv hle
    · rw [completeIn_isReport hcomplete] at hreport
      cases hreport

/-- A partial sync of the next push leaves a deployment sound, whatever it comes to. -/
theorem Deployment.Sound.pushStep {d : Deployment σ} {order : List Nat}
    {result : Except Error Outcome} {w : World σ} (hd : d.Sound c repo t Valid position Genuine)
    (hlt : d.handed < position d.world.host)
    (h : partialSyncIn c order repo (t.push d.handed) d.world = some (result, w)) :
    ({ world := w, handed := d.handed + 1, log := .ofPush d.handed result :: d.log } :
      Deployment σ).Sound c repo t Valid position Genuine := by
  unfold partialSyncIn at h
  cases hrow : storedRepo repo d.world with
  | error e =>
    rw [hrow] at h
    cases h
    exact hd.ended hlt (.refl _) rfl
  | ok row =>
    obtain ⟨entry, hentry, rfl⟩ := entry_of_getRepo (getRepo_of_storedRepo hrow)
    have hname : entry.row.fullName = repo.fullName := fullName_of_entryNamed? hentry
    simp only [hrow] at h
    cases hawait : awaitLease d.world entry.row.fullName c.label c.options.leaseTime
        (.start d.world.clock c.options.leaseWait) with
    | mk taken w₁ =>
      rw [hawait] at h
      have hwait : Waited c Genuine d.world w₁ := awaitLease_waited hawait
      cases taken with
      | error e =>
        cases h
        exact hd.ended hlt hwait rfl
      | ok holder =>
        cases holder with
        | none =>
          cases h
          exact hd.ended hlt hwait (isReport_alreadyRunning _)
        | some holder =>
          exact hd.begun hfollows hgives hlawful hfree hgenuine hlt ⟨entry, hentry, rfl⟩ hname
            hwait h

omit hfollows hgives hlawful hfree hgenuine in
/-- A partial sync that goes on to wait leaves a deployment sound. -/
theorem Deployment.Sound.waitStep {d : Deployment σ} {x : Waiting} {w : World σ}
    (hd : d.Sound c repo t Valid position Genuine)
    (hasks : d.Asks c repo t position (.waiting x, w)) :
    ({ d with world := w, waiting := some x } : Deployment σ).Sound c repo t Valid position
      Genuine := by
  obtain ⟨hlt, ⟨e, hattempt, -⟩ | ⟨row, wait, time, hnames, hname, hattempt⟩⟩ := hasks.cases hd
  · cases hattempt
  obtain ⟨r, heq, -⟩ | ⟨x', heq, hrow, hpush, rfl⟩ | ⟨holder, heq, -⟩ :=
    attemptPartial_cases hattempt
  · cases heq
  · cases heq
    have hwait : Waited c Genuine d.world _ :=
      takeLease_waited d.world row.fullName c.label c.options.leaseTime
    exact (hd.waited hwait).wait
      ⟨hwait.host ▸ hlt, hpush, hrow ▸ hnames.of_repos hwait.repos, hrow ▸ hname⟩
  · cases heq

/-- A partial sync that settles, at once or after having waited, leaves a deployment sound. -/
theorem Deployment.Sound.settleStep {d : Deployment σ} {phase : Phase} {w₁ w : World σ}
    {order : List Nat} {result : Except Error Outcome}
    (hd : d.Sound c repo t Valid position Genuine)
    (hasks : d.Asks c repo t position (.settled phase, w₁))
    (hcomplete : completeIn c order phase w₁ = some (result, w)) :
    ({ world := w, handed := d.handed + 1, log := .ofPush d.handed result :: d.log } :
      Deployment σ).Sound c repo t Valid position Genuine := by
  obtain ⟨hlt, ⟨e, hattempt, rfl⟩ | ⟨row, wait, time, hnames, hname, hattempt⟩⟩ := hasks.cases hd
  · cases hattempt
    cases hcomplete
    exact hd.ended hlt (.refl _) rfl
  have hwait : Waited c Genuine d.world _ :=
    takeLease_waited d.world row.fullName c.label c.options.leaseTime
  obtain ⟨r, heq, hreport, rfl⟩ | ⟨x', heq, -⟩ | ⟨holder, heq, rfl⟩ :=
    attemptPartial_cases hattempt
  · cases heq
    cases hcomplete
    exact hd.ended hlt hwait hreport
  · cases heq
  · cases heq
    exact hd.begun hfollows hgives hlawful hfree hgenuine hlt hnames hname hwait hcomplete

/-- Whatever happens next, a sound deployment stays sound. -/
theorem Deployment.Sound.step {d d' : Deployment σ}
    (hd : d.Sound c repo t Valid position Genuine)
    (h : d.Step c repo t Valid position d') : d'.Sound c repo t Valid position Genuine := by
  cases h with
  | host h hv hle => exact hd.quiet (.of_repos rfl) .refl hv hle
  | time now clock serial status => exact hd.quiet (.of_repos rfl) .refl hd.valid (Nat.le_refl _)
  | acquire key holder now expiresAt =>
    exact hd.quiet (.of_repos (Store.repos_acquireLease _ _ _ _ _).1)
      (.single (.acquire _ key holder now expiresAt)) hd.valid (Nat.le_refl _)
  | renew key holder expiresAt =>
    exact hd.quiet (.of_repos rfl) (.single (.renew _ key holder expiresAt)) hd.valid
      (Nat.le_refl _)
  | release key holder =>
    exact hd.quiet (.of_repos rfl) (.single (.release _ key holder)) hd.valid (Nat.le_refl _)
  | full order force result w log hfull hlog =>
    exact hd.fullStep hfollows hgives hlawful hfree hgenuine hfull hlog
  | push order result w hnone hlt hpush =>
    exact hd.pushStep hfollows hgives hlawful hfree hgenuine hlt hpush
  | wait x w hasks => exact hd.waitStep hasks
  | settle phase w₁ order result w hasks hcomplete =>
    exact hd.settleStep hfollows hgives hlawful hfree hgenuine hasks hcomplete

/-- Whatever happens, a sound deployment stays sound. -/
theorem Deployment.Sound.steps {d d' : Deployment σ}
    (hd : d.Sound c repo t Valid position Genuine)
    (h : d.Steps c repo t Valid position d') : d'.Sound c repo t Valid position Genuine := by
  induction h with
  | refl => exact hd
  | tail _ hstep ih => exact ih.step hfollows hgives hlawful hfree hgenuine hstep

/-! ## Being up to date -/

omit hgives hgenuine hfree in
/-- If a sync of a sound deployment finds the store up to date, then the host has not moved, the
marker is its head, and no path of a push still to come is behind it. -/
theorem Deployment.Sound.upToDate {d : Deployment σ} {order : List Nat} {force : Bool}
    {w : World σ} (hd : d.Sound c repo t Valid position Genuine)
    (h : fullSyncIn c order repo force d.world = some (.ok .upToDate, w)) :
    Quiet repo d.world w ∧ position w.host = position d.world.host ∧
      ∀ k p, d.handed ≤ k → k < position d.world.host → t.Names k p →
        ∃ i, reached t p d.log = some i ∧ k < i := by
  obtain hover | ⟨run, w₁, -, hcomplete⟩ := fullSyncIn_cases h
  · have hquiet := startFull_quiet c repo force d.world
    rw [hover] at hquiet
    obtain ⟨head, id, host, hname, hhost, hhead, hmarker⟩ := (startFull_over hover).2 rfl
    have hvalid := hhost Valid hfollows.keeps hd.valid
    have hle := hhost _ (hfollows.later (position d.world.host)) (Nat.le_refl _)
    have hcommit := hfollows.head hname hvalid
    have hle' := (hfollows.later (position d.world.host)).head id c.options.branch hle
    rw [hhead] at hcommit hle'
    obtain ⟨j, hj, hjhead, hpending⟩ := hd.marker head hmarker
    have hpos : j = position w.host :=
      hlawful.fresh _ _ (hjhead.symm.trans (Except.ok.inj hcommit))
    have hsame : position w.host = position d.world.host := Nat.le_antisymm (hpos ▸ hj) hle'
    exact ⟨hquiet, hsame, hpending (hpos.trans hsame)⟩
  · cases completeIn_isReport hcomplete

/-- A path is uncovered if no run has brought it up to any version, or if a push that names it was
dropped that is later than the version that it was brought up to. -/
def Uncovered (t : Timeline) (path : String) (log : List Deed) : Prop :=
  reached t path log = none ∨
    ∃ i k, reached t path log = some i ∧ i ≤ k ∧ Deed.dropped k ∈ log ∧ t.Names k path

end Phases

/-! ## Two files that trade their contents -/

/-- A coordinator whose partial syncs do not wait for the lease. -/
def hurried : Setup Memory :=
  { memorySetup with options := { leaseWait := 0 } }

theorem repos_fullSync (force : Bool) (w : World Memory) :
    (fullSync hurried widgets force w).2.host.repos = w.host.repos := by
  obtain ⟨order, h⟩ := fullSync_isOrder hurried widgets force w
  have hmoves : Moves hurried (fun h => h.repos = w.host.repos) (fun _ => True) w _ :=
    fullSyncIn_moves (Memory.service_keeps fun repos => repos = w.host.repos)
      (fun _ _ _ _ _ _ => trivial) h
  exact (hmoves rfl).2

theorem repos_partialSync (changes : ChangeSet) (w : World Memory) :
    (partialSync hurried widgets changes w).2.host.repos = w.host.repos := by
  obtain ⟨order, h⟩ := partialSync_isOrder hurried widgets changes w
  have hmoves : Moves hurried (fun h => h.repos = w.host.repos) (fun _ => True) w _ :=
    partialSyncIn_moves (Memory.service_keeps fun repos => repos = w.host.repos)
      (fun _ _ _ _ _ _ => trivial) h
  exact (hmoves rfl).2

/-- Somebody else takes the lease of the repository. -/
def withLease (w : World Memory) : World Memory :=
  { w with
    store := (w.store.acquireLease widgets.fullName "other" w.now (w.now.plus 60000)).2 }

/-- Somebody else gives the lease of the repository up. -/
def withoutLease (w : World Memory) : World Memory :=
  { w with store := w.store.releaseLease widgets.fullName "other" }

/-- The host goes on to a version. -/
def atVersion (v : Nat) (w : World Memory) : World Memory :=
  { w with host := Memory.single widgets (trading v) }

/-- A deployment at the first version, with nothing stored. -/
def fresh : Deployment Memory :=
  { world := worldOf (trading 0) {} }

theorem fresh_starts :
    Deployment.Starts hurried widgets (Memory.AtVersion widgets trading)
      (Memory.FileOf ["A = 1\n", "B = 2\n"]) fresh.world where
  valid := ⟨0, rfl⟩
  wellFormed := wellFormed_empty
  derived := Produced.derived .refl
  rows _ := rfl
  marker := rfl

/-- Steps of a deployment whose repository is this one. -/
abbrev TradingSteps : Deployment Memory → Deployment Memory → Prop :=
  Deployment.Steps hurried widgets (Memory.timeline trading tradingPush)
    (Memory.AtVersion widgets trading) fun h => place h.repos

/-- After a full sync, the first push comes while somebody else has the lease. -/
def leased : World Memory :=
  withLease (atVersion 1 (fullSync hurried widgets false fresh.world).2)

/-- After the partial sync of the first push, the second one comes and the lease is free. -/
def released : World Memory :=
  withoutLease (atVersion 2 (partialSync hurried widgets (tradingPush 0) leased).2)

/-- The partial sync of the second push is over. -/
def caughtUp : Deployment Memory :=
  { world := (partialSync hurried widgets (tradingPush 1) released).2
    handed := 2
    log := [.applied 1, .dropped 0, .indexed 0] }

/-- After a full sync during which somebody else had the lease, the first push comes. -/
def registered : World Memory :=
  atVersion 1 (withoutLease (fullSync hurried widgets false (withLease fresh.world)).2)

/-- The partial sync of the first push is over, and no full sync has completed. -/
def partlyIndexed : Deployment Memory :=
  { world := (partialSync hurried widgets (tradingPush 0) registered).2
    handed := 1
    log := [.applied 0] }

/-- What the syncs on the way answer. -/
theorem trading_answers :
    Outcome.isReport (fullSync hurried widgets false fresh.world).1 = true ∧
    Deed.ofPush 0 (partialSync hurried widgets (tradingPush 0) leased).1 = .dropped 0 ∧
    Deed.ofPush 1 (partialSync hurried widgets (tradingPush 1) released).1 = .applied 1 ∧
    Outcome.isReport (fullSync hurried widgets false (withLease fresh.world)).1 = false ∧
    Deed.ofPush 0 (partialSync hurried widgets (tradingPush 0) registered).1 = .applied 0 := by
  decide +kernel

/-- What the store has in the end, and that the next full sync finds it up to date. -/
theorem trading_upToDate :
    (fullSync hurried widgets false caughtUp.world).1 = .ok .upToDate ∧
    ((fullSync hurried widgets false caughtUp.world).2.store.rowAt widgets "a.py").any
      (fun f => f.content == "A = 1\n") = true ∧
    (fullSync hurried widgets false partlyIndexed.world).1 = .ok .upToDate ∧
    (fullSync hurried widgets false partlyIndexed.world).2.store.rowAt widgets "b.py" = none := by
  decide +kernel

/-- The first full sync indexes the first version. -/
theorem fresh_logged :
    Logged (Memory.timeline trading tradingPush) [] (fullSync hurried widgets false fresh.world).1
      [.indexed 0] := by
  obtain ⟨order, horder⟩ := fullSync_isOrder hurried widgets false fresh.world
  have hplace : place (fullSync hurried widgets false fresh.world).2.host.repos = 0 :=
    congrArg place (repos_fullSync false fresh.world)
  have hreport := trading_answers.1
  revert hreport hplace horder
  generalize fullSync hurried widgets false fresh.world = y
  intro horder hplace hreport
  obtain ⟨r, w', h, -⟩ :=
    exists_completed (P := fun _ => true) (y := some y) (by simpa using hreport)
  cases h
  obtain ⟨j, -, hj, hrevision, -⟩ := fullSyncIn_timeline (trading_follows _) collisionFree_trading
    trading_genuine fresh_starts.wellFormed fresh_starts.derived fresh_starts.valid horder
  have hzero : j = 0 := Nat.le_zero.mp (hplace ▸ hj)
  subst hzero
  exact .completed r 0 hrevision

/-- A full sync and the partial syncs of two pushes, the first of which gives up. -/
theorem caughtUp_reached : TradingSteps fresh caughtUp := by
  obtain ⟨order₀, h₀⟩ := fullSync_isOrder hurried widgets false fresh.world
  obtain ⟨-, hdropped, happlied, -⟩ := trading_answers
  have hplace₀ : place (fullSync hurried widgets false fresh.world).2.host.repos ≤ 1 :=
    Nat.le_trans (Nat.le_of_eq (congrArg place (repos_fullSync false fresh.world))) (Nat.zero_le 1)
  have hplace₁ : place (partialSync hurried widgets (tradingPush 0) leased).2.host.repos ≤ 2 :=
    Nat.le_trans (Nat.le_of_eq (congrArg place (repos_partialSync (tradingPush 0) leased)))
      (Nat.le_succ 1)
  let synced : Deployment Memory :=
    { world := (fullSync hurried widgets false fresh.world).2, log := [.indexed 0] }
  let dropped : Deployment Memory :=
    { world := (partialSync hurried widgets (tradingPush 0) leased).2
      handed := 1
      log := [.dropped 0, .indexed 0] }
  have hsynced : TradingSteps fresh synced :=
    .single (.full order₀ false _ _ _ h₀ fresh_logged)
  have hleased : TradingSteps synced { synced with world := leased } :=
    .head (.host (Memory.single widgets (trading 1)) ⟨1, rfl⟩ hplace₀)
      (.single (.acquire widgets.fullName "other" _ _))
  have hgaveUp : TradingSteps { synced with world := leased } dropped :=
    .single (.pushed hdropped rfl Nat.zero_lt_one)
  have hreleased : TradingSteps dropped { dropped with world := released } :=
    .head (.host (Memory.single widgets (trading 2)) ⟨2, rfl⟩ hplace₁)
      (.single (.release widgets.fullName "other"))
  have hcaughtUp : TradingSteps { dropped with world := released } caughtUp :=
    .single (.pushed happlied rfl (Nat.lt_succ_self 1))
  exact hsynced.trans (hleased.trans (hgaveUp.trans (hreleased.trans hcaughtUp)))

/-- A full sync that finds the lease taken, and the partial sync of a push. -/
theorem partlyIndexed_reached : TradingSteps fresh partlyIndexed := by
  obtain ⟨order₀, h₀⟩ := fullSync_isOrder hurried widgets false (withLease fresh.world)
  obtain ⟨-, -, -, hreport, happlied⟩ := trading_answers
  have hplace : place (fullSync hurried widgets false (withLease fresh.world)).2.host.repos ≤ 1 :=
    Nat.le_trans (Nat.le_of_eq (congrArg place (repos_fullSync false (withLease fresh.world))))
      (Nat.zero_le 1)
  let refused : Deployment Memory :=
    { world := (fullSync hurried widgets false (withLease fresh.world)).2 }
  have hrefused : TradingSteps fresh refused :=
    .head (.acquire widgets.fullName "other" _ _)
      (.single (.full order₀ false _ _ _ h₀ (.other _ hreport)))
  have hregistered : TradingSteps refused { refused with world := registered } :=
    .head (.release widgets.fullName "other")
      (.single (.host (Memory.single widgets (trading 1)) ⟨1, rfl⟩ hplace))
  have happly : TradingSteps { refused with world := registered } partlyIndexed :=
    .single (.pushed happlied rfl Nat.zero_lt_one)
  exact hrefused.trans (hregistered.trans happly)

/-! ## What the answer says -/

section Answer

variable {σ : Type} {c : Setup σ} {repo : RepoId} {t : Timeline} {Valid : σ → Prop}
  {position : σ → Nat} {Genuine : Remote.File → Prop}

/-- Whenever a full sync answers that the store is up to date, every file to index of the present
tree is stored with its content unless its path is uncovered, and a path that is stored without
being in the tree was removed by a push that has not been applied. -/
theorem upToDate_covers {w w' : World σ} {d : Deployment σ} {order : List Nat} {force : Bool}
    (hfollows : c.service.Follows repo c.options.branch t Valid position)
    (hgives : c.service.Gives Valid Genuine) (hlawful : t.Lawful) (hfree : CollisionFree Genuine)
    (hgenuine : ∀ v p file, t.tree v p = some file → Genuine file)
    (hstart : Deployment.Starts c repo Valid Genuine w)
    (hrun : ({ world := w } : Deployment σ).Steps c repo t Valid position d)
    (h : fullSyncIn c order repo force d.world = some (.ok .upToDate, w')) :
    (∀ p file, t.tree (position w'.host) p = some file → Language.isIndexable p = true →
      (w'.store.rowAt repo p).map FileRow.core = some (c.source.rowOf p file) ∨
        Uncovered t p d.log) ∧
    ∀ p, w'.store.rowAt repo p ≠ none → t.tree (position w'.host) p = none →
      ∃ k, k < position w'.host ∧ p ∈ (t.push k).deleted ∧ Deed.applied k ∉ d.log := by
  have hd : d.Sound c repo t Valid position Genuine :=
    hstart.sound.steps hfollows hgives hlawful hfree hgenuine hrun
  obtain ⟨hquiet, hpos, hpending⟩ := hd.upToDate hfollows hlawful h
  rw [hpos]
  refine ⟨fun p file hfile hindexable => ?_, fun p hstored hnone => ?_⟩
  · cases hreached : reached t p d.log with
    | none => exact .inr (.inl hreached)
    | some i =>
      by_cases hlater : ∃ k, i ≤ k ∧ k < position d.world.host ∧ t.Names k p
      · obtain ⟨k, hik, hkpos, hnames⟩ := hlater
        -- The push is neither still to come nor applied, or the path would be past it.
        have hhanded : k < d.handed := by
          refine Nat.lt_of_not_le fun hle => ?_
          obtain ⟨i', hi', hki'⟩ := hpending k p hle hkpos hnames
          cases hreached.symm.trans hi'
          exact absurd hik (Nat.not_le.mpr hki')
        refine .inr (.inr ⟨i, k, hreached, hik, ?_, hnames⟩)
        refine (hd.settled k hhanded).resolve_left fun happlied => ?_
        obtain ⟨i', hi', hki'⟩ := (hd.applied k happlied).2 p hnames
        cases hreached.symm.trans hi'
        exact absurd hik (Nat.not_le.mpr hki')
      · left
        rw [hquiet.rows]
        refine hd.rows p i file hreached hindexable fun v hiv hv => ?_
        have hconst := hlawful.tree_eq hv fun k hvk hk hnames =>
          hlater ⟨k, Nat.le_trans hiv hvk, hk, hnames⟩
        rw [← hconst]
        exact hfile
  · rw [hquiet.rows] at hstored
    obtain ⟨v, hv, hsome⟩ := hd.stored p hstored
    obtain ⟨k, -, hk, hdeleted, hafter⟩ := hlawful.exists_deleted hv hsome hnone
    exact ⟨k, hk, hdeleted, fun happlied => hstored (hd.removed k p happlied hdeleted hafter)⟩

/-- A full sync can find the store up to date without the content of a file whose push was dropped,
and without a file that no full sync has indexed. -/
theorem upToDate_misses_files :
    (Memory.timeline trading tradingPush).Lawful ∧
    (∃ d order w', TradingSteps fresh d ∧
      fullSyncIn hurried order widgets false d.world = some (.ok .upToDate, w') ∧
      ∃ file row, Memory.fileTree (trading (place w'.host.repos)) "a.py" = some file ∧
        Language.isIndexable "a.py" = true ∧ w'.store.rowAt widgets "a.py" = some row ∧
        row.content ≠ file.content) ∧
    ∃ d order w', TradingSteps fresh d ∧
      fullSyncIn hurried order widgets false d.world = some (.ok .upToDate, w') ∧
      ∃ file, Memory.fileTree (trading (place w'.host.repos)) "b.py" = some file ∧
        Language.isIndexable "b.py" = true ∧ w'.store.rowAt widgets "b.py" = none := by
  obtain ⟨hcaughtUp, hold, hpartly, hmissing⟩ := trading_upToDate
  refine ⟨trading_lawful, ?_, ?_⟩
  · obtain ⟨order, h⟩ := fullSync_isOrder hurried widgets false caughtUp.world
    have hplace : place (fullSync hurried widgets false caughtUp.world).2.host.repos = 2 :=
      congrArg place ((repos_fullSync _ _).trans (repos_partialSync (tradingPush 1) released))
    obtain ⟨row, hrow, hcontent⟩ := (Option.any_eq_true _ _).mp hold
    refine ⟨caughtUp, order, _, caughtUp_reached, h.trans (congrArg some (Prod.ext hcaughtUp rfl)),
      ⟨"B = 2\n", Memory.contentIdOf "B = 2\n"⟩, row, ?_, by decide +kernel, hrow, ?_⟩
    · rw [hplace]
      rfl
    · rw [beq_iff_eq.mp hcontent]
      decide
  · obtain ⟨order, h⟩ := fullSync_isOrder hurried widgets false partlyIndexed.world
    have hplace : place (fullSync hurried widgets false partlyIndexed.world).2.host.repos = 1 :=
      congrArg place ((repos_fullSync _ _).trans (repos_partialSync (tradingPush 0) registered))
    refine ⟨partlyIndexed, order, _, partlyIndexed_reached,
      h.trans (congrArg some (Prod.ext hpartly rfl)),
      ⟨"B = 2\n", Memory.contentIdOf "B = 2\n"⟩, ?_, by decide +kernel, hmissing⟩
    rw [hplace]
    rfl

theorem upToDate_covers_trading :
    ∃ order w', fullSyncIn hurried order widgets false caughtUp.world =
        some (.ok .upToDate, w') ∧
      (w'.store.rowAt widgets "b.py").map FileRow.core =
        some (hurried.source.rowOf "b.py" ⟨"A = 1\n", Memory.contentIdOf "A = 1\n"⟩) ∧
      ∀ p, w'.store.rowAt widgets p ≠ none → Memory.fileTree (trading 2) p ≠ none := by
  obtain ⟨order, horder⟩ := fullSync_isOrder hurried widgets false caughtUp.world
  have hupToDate : fullSync hurried widgets false caughtUp.world =
      (.ok .upToDate, (fullSync hurried widgets false caughtUp.world).2) :=
    Prod.ext trading_upToDate.1 rfl
  have h := horder.trans (congrArg some hupToDate)
  have hplace : place (fullSync hurried widgets false caughtUp.world).2.host.repos = 2 :=
    congrArg place ((repos_fullSync _ _).trans (repos_partialSync (tradingPush 1) released))
  obtain ⟨hrows, hstale⟩ := upToDate_covers (trading_follows _)
    (Memory.service_gives trading_contents) trading_lawful collisionFree_trading trading_genuine
    fresh_starts caughtUp_reached h
  simp only [hplace] at hrows hstale
  refine ⟨order, _, h, ?_, fun p hp hnone => ?_⟩
  · refine (hrows "b.py" _ rfl (by decide +kernel)).resolve_right ?_
    -- The second push was applied, and no later push was dropped.
    rintro (hreached | ⟨i, k, hreached, hik, hdropped, -⟩)
    · cases hreached
    · cases hreached
      have hk : k = 0 := by simpa [caughtUp] using hdropped
      subst hk
      cases hik
  · obtain ⟨k, -, hdeleted, -⟩ := hstale p hp hnone
    cases hdeleted

end Answer

end ContextIndex.Sync
