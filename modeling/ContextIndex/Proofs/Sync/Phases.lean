import ContextIndex.Proofs.Sync.Changes
import ContextIndex.Proofs.Sync.Crew

/-!
# The phases of a run

A run resolves its repository, takes the lease, asks the host what to do, indexes files and ends.
Each phase is described once here: what it leaves of the rows and of the marker of the repository
(`Quiet`), and which answers of the host it is made of (`startFull_indexing`, `startFull_over`,
`Run.finish_eq`).
-/

namespace ContextIndex.Remote

/-- Whatever a service is asked, its state stays one of these. -/
structure Service.Keeps {σ : Type} (s : Service σ) (Valid : σ → Prop) : Prop where
  metadata : ∀ {h : σ} (repo : RepoId), Valid h → Valid (s.metadata repo h).2
  head : ∀ {h : σ} (repo : RepoId) (branch : String), Valid h → Valid (s.head repo branch h).2
  tree : ∀ {h : σ} (repo : RepoId) (ref : String), Valid h → Valid (s.tree repo ref h).2
  fetch : ∀ {h : σ} (repo : RepoId) (path ref : String), Valid h →
    Valid (s.fetch repo path ref h).2
  contentId : ∀ {h : σ} (repo : RepoId) (path ref : String), Valid h →
    Valid (s.contentId repo path ref h).2

theorem Service.Keeps.and {σ : Type} {s : Service σ} {P Q : σ → Prop} (hp : s.Keeps P)
    (hq : s.Keeps Q) : s.Keeps fun h => P h ∧ Q h where
  metadata repo h := ⟨hp.metadata repo h.1, hq.metadata repo h.2⟩
  head repo branch h := ⟨hp.head repo branch h.1, hq.head repo branch h.2⟩
  tree repo ref h := ⟨hp.tree repo ref h.1, hq.tree repo ref h.2⟩
  fetch repo path ref h := ⟨hp.fetch repo path ref h.1, hq.fetch repo path ref h.2⟩
  contentId repo path ref h := ⟨hp.contentId repo path ref h.1, hq.contentId repo path ref h.2⟩

/-- Every file that a service gives out is one of these. -/
def Service.Gives {σ : Type} (s : Service σ) (Valid : σ → Prop) (Genuine : File → Prop) : Prop :=
  ∀ {h : σ} (repo : RepoId) (path ref : String) {file : File}, Valid h →
    (s.fetch repo path ref h).1 = .ok file → Genuine file

end ContextIndex.Remote

namespace ContextIndex.Sync

open ContextIndex.Store (Names WellFormed)

/-! ## Rows and marker left alone -/

/-- The rows and the marker of a repository are what they were. -/
structure Quiet {σ : Type} (repo : RepoId) (w w' : World σ) : Prop where
  rows : ∀ path, w'.store.rowAt repo path = w.store.rowAt repo path
  marker : w'.store.marker repo = w.store.marker repo

section Quiet

variable {σ : Type} {repo : RepoId}

theorem Quiet.refl (w : World σ) : Quiet repo w w :=
  ⟨fun _ => rfl, rfl⟩

theorem Quiet.trans {w₁ w₂ w₃ : World σ} (h : Quiet repo w₁ w₂) (h' : Quiet repo w₂ w₃) :
    Quiet repo w₁ w₃ :=
  ⟨fun path => (h'.rows path).trans (h.rows path), h'.marker.trans h.marker⟩

theorem Quiet.of_repos {w w' : World σ} (h : w'.store.repos = w.store.repos) :
    Quiet repo w w' :=
  ⟨fun path => Store.rowAt_of_repos h repo path, Store.marker_of_repos h repo⟩

/-- Taking a lease leaves the repositories alone. -/
theorem repos_takeLease (w : World σ) (key label : String) (leaseTime : Nat) :
    (takeLease w key label leaseTime).2.store.repos = w.store.repos := by
  unfold takeLease
  split
  · rfl
  · exact (Store.repos_acquireLease _ _ _ _ _).1

theorem host_takeLease (w : World σ) (key label : String) (leaseTime : Nat) :
    (takeLease w key label leaseTime).2.host = w.host := by
  unfold takeLease
  split <;> rfl

theorem repos_awaitLease (w : World σ) (key label : String) (leaseTime : Nat) (wait : Wait) :
    (awaitLease w key label leaseTime wait).2.store.repos = w.store.repos := by
  fun_induction awaitLease w key label leaseTime wait with
  | case1 w wait w' h hnext =>
    have := repos_takeLease w key label leaseTime
    rw [h] at this
    exact this
  | case2 w wait w' h t hnext ih =>
    have := repos_takeLease w key label leaseTime
    rw [h] at this
    exact ih.trans this
  | case3 w wait hr => exact repos_takeLease w key label leaseTime

theorem host_awaitLease (w : World σ) (key label : String) (leaseTime : Nat) (wait : Wait) :
    (awaitLease w key label leaseTime wait).2.host = w.host := by
  fun_induction awaitLease w key label leaseTime wait with
  | case1 w wait w' h hnext =>
    have := host_takeLease w key label leaseTime
    rw [h] at this
    exact this
  | case2 w wait w' h t hnext ih =>
    have := host_takeLease w key label leaseTime
    rw [h] at this
    exact ih.trans this
  | case3 w wait hr => exact host_takeLease w key label leaseTime

end Quiet

/-! ## Resolving the repository -/

section Resolve

variable {σ : Type} {c : Setup σ} {repo : RepoId} {w w' : World σ}

theorem getRepo_of_storedRepo {row : RepoRow} (h : storedRepo repo w = .ok row) :
    w.store.getRepo repo = .ok (some row) := by
  unfold storedRepo at h
  split at h <;> cases h
  next h => exact h

/-- Resolving a repository leaves rows and marker alone, whatever comes of it. -/
theorem resolveRepo_quiet (c : Setup σ) (repo : RepoId) (w : World σ) :
    Quiet repo w (resolveRepo c repo w).2 := by
  unfold resolveRepo
  split
  · exact .refl w
  · exact .refl w
  · split
    · exact .of_repos rfl
    · exact ⟨fun path => Store.rowAt_insertRepo _ _ _ _ path, Store.marker_insertRepo _ _ _ _⟩

/-- The row that a repository resolves to is stored under its name and holds its marker. -/
theorem resolveRepo_row {row : RepoRow} (h : resolveRepo c repo w = (.ok row, w')) :
    w'.store.Names repo row.id ∧ row.repoId.fullName = repo.fullName ∧
      row.lastRevision = w.store.marker repo := by
  unfold resolveRepo at h
  split at h
  · cases h
  · next r hget =>
    cases h
    obtain ⟨e, he, rfl⟩ := entry_of_getRepo hget
    refine ⟨⟨e, he, rfl⟩, fullName_of_entryNamed? he, ?_⟩
    unfold Store.marker
    rw [he]
    rfl
  · next hget =>
    have hnone : w.store.entryNamed? repo.fullName = none := by
      unfold Store.getRepo at hget
      split at hget
      · next e he =>
        cases hread : Store.readRepo e.row <;> rw [hread] at hget <;> cases hget
      · next he => exact he
    split at h
    · cases h
    · next m host hm =>
      have hmarker : w.store.marker repo = none := by
        unfold Store.marker
        rw [hnone]
        rfl
      unfold Store.insertRepo at h
      rw [hnone] at h
      cases h
      refine ⟨⟨⟨_, []⟩, ?_, rfl⟩, rfl, hmarker.symm⟩
      rw [Store.entryNamed?_append, hnone]
      simp [RepoRow.fullName, RepoRow.repoId]

theorem resolveRepo_host {Valid : σ → Prop} (hkeep : c.service.Keeps Valid) (repo : RepoId)
    (w : World σ) (hv : Valid w.host) : Valid (resolveRepo c repo w).2.host := by
  unfold resolveRepo
  split
  · exact hv
  · exact hv
  · have hm := hkeep.metadata repo hv
    split <;> next h => rw [h] at hm; exact hm

end Resolve

/-! ## Opening a full sync -/

section Open

variable {σ : Type} {c : Setup σ} {repo : RepoId} {force : Bool} {w w' : World σ}

/-- A full sync ends before its files without a report. -/
def Outcome.isReport : Except Error Outcome → Bool
  | .ok (.completed _) => true
  | _ => false

theorem isReport_alreadyRunning (x : Except Error Progress) :
    Outcome.isReport (x.map .alreadyRunning) = false := by
  cases x <;> rfl

theorem openFull_repos (c : Setup σ) (row : RepoRow) (holder : String) (force : Bool)
    (w : World σ) : (openFull c row holder force w).2.store.repos = w.store.repos := by
  unfold openFull failRun
  simp only
  split
  · rfl
  · split
    · split <;> rfl
    · rfl

/-- A full sync that has files to index has asked for the head and for its tree. -/
theorem openFull_indexing {row : RepoRow} {holder : String} {run : Run}
    (h : openFull c row holder force w = (.indexing run, w')) :
    ∃ head tree host, c.service.head row.repoId c.options.branch w.host = (.ok head, host) ∧
      c.service.tree row.repoId head host = (.ok tree, w'.host) ∧
      run = { repo := row, holder, reference := head, revision := some head, force, report := {},
              jobs := (Remote.indexableEntries tree).map fun e => ⟨e.path, some e.sha⟩ } := by
  unfold openFull failRun at h
  simp only at h
  split at h
  · cases h
  · next head host hhead =>
    split at h
    · split at h
      · cases h
      · next tree host' htree =>
        cases h
        exact ⟨head, tree, host, hhead, htree, rfl⟩
    · cases h

/-- A full sync that is over before its files has no report; if it has found the store up to date,
the head is the recorded revision. -/
theorem openFull_over {row : RepoRow} {holder : String} {r : Except Error Outcome}
    (h : openFull c row holder force w = (.over r, w')) :
    Outcome.isReport r = false ∧
      (r = .ok .upToDate → ∃ head, c.service.head row.repoId c.options.branch w.host =
        (.ok head, w'.host) ∧ row.lastRevision = some head) := by
  unfold openFull failRun at h
  simp only at h
  split at h
  · cases h
    exact ⟨rfl, nofun⟩
  · next head host hhead =>
    split at h
    · split at h
      · cases h
        exact ⟨rfl, nofun⟩
      · cases h
    · next hneed =>
      cases h
      refine ⟨rfl, fun _ => ⟨head, hhead, ?_⟩⟩
      simp only [needsSync, Bool.or_eq_true, bne_iff_ne, ne_eq, not_or,
        Decidable.not_not] at hneed
      exact hneed.2

/-- What comes before the files of a full sync leaves rows and marker alone. -/
theorem startFull_quiet (c : Setup σ) (repo : RepoId) (force : Bool) (w : World σ) :
    Quiet repo w (startFull c repo force w).2 := by
  have hresolve := resolveRepo_quiet c repo w
  unfold startFull
  simp only
  split
  · next e w₁ h =>
    rw [h] at hresolve
    exact hresolve.trans (.of_repos rfl)
  · next row w₁ h =>
    rw [h] at hresolve
    have hlease := repos_takeLease w₁ repo.fullName c.label c.options.leaseTime
    split <;> next h' =>
      rw [h'] at hlease
      refine hresolve.trans ((Quiet.of_repos hlease).trans (.of_repos ?_))
      first | rfl | exact openFull_repos c _ _ _ _

/-- A full sync that has files to index holds the row of its repository, the head of the branch and
the files of the tree at the head. -/
theorem startFull_indexing {run : Run} (h : startFull c repo force w = (.indexing run, w')) :
    ∃ head tree host host', w'.store.Names repo run.repo.id ∧
      run.repo.repoId.fullName = repo.fullName ∧
      (∀ Valid : σ → Prop, c.service.Keeps Valid → Valid w.host → Valid host) ∧
      c.service.head run.repo.repoId c.options.branch host = (.ok head, host') ∧
      c.service.tree run.repo.repoId head host' = (.ok tree, w'.host) ∧
      run.reference = head ∧ run.revision = some head ∧ run.force = force ∧ run.report = {} ∧
      run.jobs = (Remote.indexableEntries tree).map fun e => ⟨e.path, some e.sha⟩ := by
  unfold startFull at h
  simp only at h
  split at h
  · cases h
  · next row w₁ hrow =>
    obtain ⟨hnames, hname, -⟩ := resolveRepo_row hrow
    have hlease := repos_takeLease w₁ repo.fullName c.label c.options.leaseTime
    have hhost := host_takeLease w₁ repo.fullName c.label c.options.leaseTime
    split at h
    · cases h
    · cases h
    · next holder w₂ h₂ =>
      rw [h₂] at hlease hhost
      have hrepos := openFull_repos c row holder force w₂
      rw [h] at hrepos
      obtain ⟨head, tree, host, hhead, htree, rfl⟩ := openFull_indexing h
      refine ⟨head, tree, w₂.host, host, hnames.of_repos (hrepos.trans hlease), hname, ?_, hhead,
        htree, rfl, rfl, rfl, rfl, rfl⟩
      intro Valid hkeep hv
      have := resolveRepo_host hkeep repo w hv
      rw [hrow] at this
      exact hhost ▸ this

/-- A full sync that is over before its files has no report; if it has found the store up to date,
the head of the branch is the marker. -/
theorem startFull_over {r : Except Error Outcome} (h : startFull c repo force w = (.over r, w')) :
    Outcome.isReport r = false ∧
      (r = .ok .upToDate → ∃ head id host, id.fullName = repo.fullName ∧
        (∀ Valid : σ → Prop, c.service.Keeps Valid → Valid w.host → Valid host) ∧
        c.service.head id c.options.branch host = (.ok head, w'.host) ∧
        w.store.marker repo = some head) := by
  unfold startFull at h
  simp only at h
  split at h
  · cases h
    exact ⟨rfl, nofun⟩
  · next row w₁ hrow =>
    obtain ⟨-, hname, hmarker⟩ := resolveRepo_row hrow
    have hhost := host_takeLease w₁ repo.fullName c.label c.options.leaseTime
    split at h
    · cases h
      exact ⟨rfl, nofun⟩
    · cases h
      constructor
      · exact isReport_alreadyRunning _
      · intro hup
        cases hp : World.progress _ _ with
        | error e => rw [hp] at hup; cases hup
        | ok p => rw [hp] at hup; cases hup
    · next holder w₂ h₂ =>
      rw [h₂] at hhost
      obtain ⟨hreport, hup⟩ := openFull_over h
      refine ⟨hreport, fun hr => ?_⟩
      obtain ⟨head, hhead, hlast⟩ := hup hr
      refine ⟨head, row.repoId, w₂.host, hname, ?_, hhead, hmarker ▸ hlast⟩
      intro Valid hkeep hv
      have := resolveRepo_host hkeep repo w hv
      rw [hrow] at this
      exact hhost ▸ this

end Open

/-! ## The end of a run -/

section Finish

variable {σ : Type}

theorem store_withStatuses {α : Type} (f : Registry → Registry) (xs : List α) (w : World σ) :
    (xs.foldl (fun w _ => w.withStatus f) w).store = w.store ∧
      (xs.foldl (fun w _ => w.withStatus f) w).host = w.host ∧
      (xs.foldl (fun w _ => w.withStatus f) w).now = w.now := by
  induction xs generalizing w with
  | nil => exact ⟨rfl, rfl, rfl⟩
  | cons x xs ih => exact ih (w.withStatus f)

/-- A run whose files are done completes: it records its revision and gives the lease up. -/
theorem Run.finish_eq (run : Run) (results : List FileResult) (w : World σ) :
    (run.finish results w).1 =
        .ok (.completed { results.foldl (fun r x => r.record x.1 x.2) run.report with
          revision := run.revision }) ∧
      (run.finish results w).2.store =
        (w.store.recordSync run.repo.id run.revision w.now).releaseLease run.repo.fullName
          run.holder ∧
      (run.finish results w).2.host = w.host := by
  obtain ⟨hstore, hhost, hnow⟩ :=
    store_withStatuses (fun r => r.fileDone run.repo.fullName) results w
  refine ⟨rfl, ?_, hhost⟩
  unfold Run.finish dropLease World.withStatus
  simp only
  unfold World.withStatus at hstore hnow
  rw [hstore, hnow]

end Finish

end ContextIndex.Sync
