import ContextIndex.Proofs.Store.Integrity
import ContextIndex.Proofs.Sync.Calls
import ContextIndex.Proofs.Sync.Full
import ContextIndex.Proofs.Sync.Push

/-!
# Full syncs one after another

A full sync that has indexed every file of a branch leaves nothing to do.  While the branch stays
where it is, every later sync that is not forced finds the marker at the head and stops there.  A
repository without files is the exception: its marker is not trusted, so its tree is listed each
time, and found empty each time.

`Rested` is the state after such a sync.  It follows from a report without failures
(`Rested.of_completed`), and a further sync keeps it (`Rested.sync`); `fullSync_idempotent` is the
statement on sequences of any length.
-/

namespace ContextIndex

/-- While its state is one of these, a service shows one head of a branch and one tree there.
Nothing is said of what it answers to fetches. -/
structure Remote.Service.Rests {σ : Type} (s : Remote.Service σ) (repo : RepoId)
    (branch : String) (Valid : σ → Prop) (revision : String) (entries : List Remote.TreeEntry) :
    Prop where
  keeps : s.Keeps Valid
  head : ∀ {h : σ} {id : RepoId}, id.fullName = repo.fullName → Valid h →
    (s.head id branch h).1 = .ok revision
  tree : ∀ {h : σ} {id : RepoId}, id.fullName = repo.fullName → Valid h →
    (s.tree id revision h).1 = .ok entries

theorem Remote.Service.Shows.rests {σ : Type} {s : Remote.Service σ} {repo : RepoId}
    {branch : String} {Valid : σ → Prop} {x : Remote.Snapshot}
    (h : s.Shows repo branch Valid x) : s.Rests repo branch Valid x.head x.tree :=
  ⟨h.keeps, h.head, h.tree⟩

/-! ## The table of files -/

namespace Store

/-- Every file with its symbols, under the number of its repository. -/
def fileTable (s : Store) : List (Nat × List FileRow) :=
  s.repos.map fun e => (e.row.id, e.files)

theorem fileTable_of_repos {s t : Store} (h : t.repos = s.repos) : t.fileTable = s.fileTable := by
  unfold fileTable
  rw [h]

theorem fileTable_recordSync (s : Store) (repo : Nat) (revision : Option String) (t : Instant) :
    (s.recordSync repo revision t).fileTable = s.fileTable := by
  unfold fileTable recordSync modify
  rw [List.map_map]
  refine List.map_congr_left fun e _ => ?_
  simp only [Function.comp]
  split <;> rfl

theorem countFiles_of_fileTable {s t : Store} (h : t.fileTable = s.fileTable) (id : Nat) :
    t.countFiles id = s.countFiles id := by
  have hfiles (s : Store) :
      s.files id = ((s.fileTable.find? fun x => x.1 == id).map Prod.snd).getD [] := by
    unfold files fileTable
    rw [List.find?_map]
    show _ = (((s.entry? id).map fun e => (e.row.id, e.files)).map Prod.snd).getD []
    cases s.entry? id <;> rfl
  unfold countFiles
  rw [hfiles, hfiles, h]

/-- A repository has files if there is a row at some path. -/
theorem countFiles_pos {s : Store} {id : Nat} {path : String} {f : FileRow}
    (h : s.file? id path = some f) : 0 < s.countFiles id :=
  List.length_pos_of_mem (List.mem_of_find?_eq_some h)

/-- A repository that has a name has an entry for its number, whether or not it is the same. -/
theorem hasRepo_of_names {s : Store} {repo : RepoId} {id : Nat} (h : s.Names repo id) :
    s.HasRepo id := by
  obtain ⟨e, he, hid⟩ := h
  cases hentry : s.entry? id with
  | some e' => exact ⟨e', hentry⟩
  | none =>
    have hmiss := List.find?_eq_none.mp hentry e (List.mem_of_find?_eq_some he)
    exact absurd (beq_iff_eq.mpr hid) hmiss

theorem getRepo_recordSync {s : Store} {repo : RepoId} {id : Nat} (h : s.Names repo id)
    (revision : String) {t : Instant} (ht : t.isReadable = true) :
    ∃ row, (s.recordSync id (some revision) t).getRepo repo = .ok (some row) ∧ row.id = id ∧
      row.lastRevision = some revision := by
  obtain ⟨e, he, rfl⟩ := h
  let row : RepoRow := { e.row with lastRevision := some revision, lastSyncedAt := some t }
  have hread : readRepo row = .ok row := readRepo_eq fun u hu => by cases hu; exact ht
  refine ⟨row, ?_, rfl, rfl⟩
  unfold getRepo recordSync
  rw [entryNamed?_modify s _ _ (keepsIdentity_record _ _), he, Option.map_some, if_pos rfl]
  exact congrArg (Except.map some) hread

end Store

namespace Sync

open ContextIndex.Store (Names HasRepo)
open Remote (widgets memorySetup worldOf)

/-! ## A run that has failed nowhere -/

theorem Report.filesFailed_record_le (r : Report) (path : String)
    (result : Except Error FileOutcome) :
    r.filesFailed ≤ (r.record path result).filesFailed := by
  unfold Report.record
  split
  · exact Nat.le_refl _
  · exact Nat.le_refl _
  · exact Nat.le_refl _
  · exact Nat.le_succ _

/-- A failure counts, whatever is reported after it. -/
theorem Report.filesFailed_recordAll_le (r : Report) (results : List FileResult) :
    r.filesFailed ≤ (r.recordAll results).filesFailed := by
  induction results generalizing r with
  | nil => exact Nat.le_refl _
  | cons x results ih => exact Nat.le_trans (r.filesFailed_record_le x.1 x.2) (ih _)

/-- In a report without failures every file has ended well. -/
theorem Report.ok_of_filesFailed {r : Report} {results : List FileResult}
    (h : (r.recordAll results).filesFailed = 0) : ∀ x ∈ results, ∃ outcome, x.2 = .ok outcome := by
  induction results generalizing r with
  | nil => exact fun _ hx => nomatch hx
  | cons y results ih =>
    intro x hx
    cases List.mem_cons.mp hx with
    | inr hmem => exact ih h x hmem
    | inl heq =>
      subst heq
      obtain ⟨path, result⟩ := x
      cases result with
      | ok outcome => exact ⟨outcome, rfl⟩
      | error e =>
        have hle := (r.record path (.error e)).filesFailed_recordAll_le results
        have hzero : ((r.record path (.error e)).recordAll results).filesFailed = 0 := h
        have hpos : (r.record path (.error e)).filesFailed = r.filesFailed + 1 := rfl
        omega

section Crew

variable {σ : Type} {c : Setup σ} {run : Run} {x : Worker} {turn : Turn} {w w' : World σ}

/-- No worker takes a file away, and one that ends well has found or put a file. -/
theorem Worker.Acts.stocked (h : x.Acts c run w turn w') (hstored : w.store.HasRepo run.repo.id) :
    w'.store.HasRepo run.repo.id ∧ w'.now = w.now ∧
      ((0 < w.store.countFiles run.repo.id ∨ ∃ outcome, turn = .ended (.ok outcome)) →
        0 < w'.store.countFiles run.repo.id) := by
  cases h with
  | skip hstage hforce hcur =>
    refine ⟨hstored, rfl, fun _ => ?_⟩
    simp only [FileJob.isCurrent, Option.any_eq_true] at hcur
    obtain ⟨-, -, f, hf, -⟩ := hcur
    exact Store.countFiles_pos hf
  | begin => exact ⟨hstored, rfl, fun h => h.elim id nofun⟩
  | miss => exact ⟨hstored, rfl, fun h => h.elim id nofun⟩
  | get => exact ⟨hstored, rfl, fun h => h.elim id nofun⟩
  | write file result w' hstage hwrite =>
    obtain ⟨-, hcur, rfl, rfl⟩ | ⟨-, ⟨hnone, -, -⟩ | ⟨e, id, next, he, rfl, rfl⟩⟩ :=
      writeFetched_cases c hwrite
    · refine ⟨hstored, rfl, fun _ => ?_⟩
      obtain ⟨f, hf, -⟩ := (Option.any_eq_true _ _).mp hcur
      exact Store.countFiles_pos hf
    · exact absurd hstored hnone
    · refine ⟨hstored.modify _ (Store.keepsIdentity_put _), rfl, fun _ => ?_⟩
      have hrow := Store.file?_putRow he ((c.source.writeOf x.job.path file).row id w.now) next
        run.repo.id x.job.path
      rw [if_pos ⟨rfl, rfl⟩] at hrow
      exact Store.countFiles_pos hrow

/-- What is known of the workers of a run on the way: each file is done or with a worker, and a file
that is done well has left something in the store. -/
structure Crew.Stocked (run : Run) (now : Instant) (k : Crew σ) : Prop where
  jobs : k.done.length + k.workers.length = run.jobs.length
  stored : k.world.store.HasRepo run.repo.id
  now : k.world.now = now
  stocked : ∀ d ∈ k.done, ∀ outcome, d.2 = .ok outcome →
    0 < k.world.store.countFiles run.repo.id

theorem Crew.Stocked.step {now : Instant} {k k' : Crew σ} (hk : k.Stocked run now)
    (h : k.Steps c run k') : k'.Stocked run now := by
  cases h with
  | idle => exact hk
  | on before after x stage w hworkers hpermit hacts =>
    obtain ⟨hstored, hnow, hpos⟩ := hacts.stocked hk.stored
    refine ⟨?_, hstored, hnow.trans hk.now, fun d hd o ho => hpos (.inl (hk.stocked d hd o ho))⟩
    have hjobs := hk.jobs
    rw [hworkers] at hjobs
    simpa using hjobs
  | ended before after x result w hworkers hacts =>
    obtain ⟨hstored, hnow, hpos⟩ := hacts.stocked hk.stored
    refine ⟨?_, hstored, hnow.trans hk.now, fun d hd o ho => ?_⟩
    · have hjobs := hk.jobs
      rw [hworkers] at hjobs
      simp only [List.length_append, List.length_cons, List.length_nil] at hjobs ⊢
      omega
    · cases List.mem_append.mp hd with
      | inl hold => exact hpos (.inl (hk.stocked d hold o ho))
      | inr hnew =>
        rw [List.mem_singleton] at hnew
        subst hnew
        cases ho
        exact hpos (.inr ⟨o, rfl⟩)

/-- A run whose files have all ended well has files in the store, unless there was none to index. -/
theorem Run.indexIn_stocked {order : List Nat} {results : List FileResult}
    (hstored : w.store.HasRepo run.repo.id) (h : run.indexIn c order w = some (results, w')) :
    w'.now = w.now ∧
      ((∀ x ∈ results, ∃ outcome, x.2 = .ok outcome) → w'.store.countFiles run.repo.id = 0 →
        run.jobs = []) := by
  have hcrew : (run.crew w).Stocked run w.now :=
    ⟨by simp [Run.crew], hstored, rfl, fun _ hd => nomatch hd⟩
  have hk := Crew.turns_induction c run _ (fun k k' hk hstep => hk.step hstep) order hcrew
  unfold Run.indexIn at h
  simp only at h
  split at h
  · next hdone =>
    rw [List.isEmpty_iff] at hdone
    cases h
    refine ⟨hk.now, fun hok hzero => List.eq_nil_of_length_eq_zero ?_⟩
    have hjobs := hk.jobs
    rw [hdone, List.length_nil, Nat.add_zero] at hjobs
    rw [← hjobs]
    by_contra hne
    obtain ⟨d, hd⟩ := List.exists_mem_of_length_pos (Nat.pos_of_ne_zero hne)
    obtain ⟨o, ho⟩ := hok (d.1.path, d.2) (List.mem_map.mpr ⟨d, hd, rfl⟩)
    exact absurd hzero (Nat.ne_of_gt (hk.stocked d hd o ho))
  · cases h

end Crew

/-! ## Nothing left to do -/

section Rested

variable {σ : Type} {c : Setup σ} {repo : RepoId} {Valid : σ → Prop} {head : String}
  {tree : List Remote.TreeEntry} {id : Nat} {w w' : World σ}

/-- The marker is at the head, and if nothing is stored then there is nothing to store. -/
structure Rested (repo : RepoId) (Valid : σ → Prop) (head : String)
    (tree : List Remote.TreeEntry) (id : Nat) (w : World σ) : Prop where
  row : ∃ row, w.store.getRepo repo = .ok (some row) ∧ row.id = id ∧ row.lastRevision = some head
  empty : w.store.countFiles id = 0 → Remote.indexableEntries tree = []
  valid : Valid w.host
  now : w.now.isReadable = true

/-- The answer to a full sync that finds nothing new. -/
def restingAnswer (s : Store) (id : Nat) (head : String) : Except Error Outcome :=
  if s.countFiles id = 0 then .ok (.completed { revision := some head }) else .ok .upToDate

theorem now_takeLease (w : World σ) (key label : String) (leaseTime : Nat) :
    (takeLease w key label leaseTime).2.now = w.now := by
  unfold takeLease
  split <;> rfl

theorem now_startFull (c : Setup σ) (repo : RepoId) (force : Bool) (w : World σ) :
    (startFull c repo force w).2.now = w.now := by
  have hresolve : (resolveRepo c repo w).2.now = w.now := by
    unfold resolveRepo
    split
    · rfl
    · rfl
    · split <;> rfl
  have hopen (row : RepoRow) (holder : String) (w : World σ) :
      (openFull c row holder force w).2.now = w.now := by
    unfold openFull failRun
    simp only
    split
    · rfl
    · split
      · split <;> rfl
      · rfl
  unfold startFull
  simp only
  split
  · next e w₁ h =>
    rw [h] at hresolve
    exact hresolve
  · next row w₁ h =>
    rw [h] at hresolve
    have hlease := now_takeLease w₁ repo.fullName c.label c.options.leaseTime
    split <;> next h' =>
      rw [h'] at hlease
      first
        | exact hlease.trans hresolve
        | exact (hopen _ _ _).trans (hlease.trans hresolve)

/-- A full sync that completes without a failure leaves nothing to do. -/
theorem Rested.of_completed {order : List Nat} {force : Bool} {r : Report}
    (hrest : c.service.Rests repo c.options.branch Valid head tree) (hv : Valid w.host)
    (hnow : w.now.isReadable = true)
    (h : fullSyncIn c order repo force w = some (.ok (.completed r), w'))
    (hclean : r.filesFailed = 0) : ∃ id, Rested repo Valid head tree id w' := by
  obtain hover | ⟨run, w₁, hstart, hcomplete⟩ := fullSyncIn_cases h
  · cases (startFull_over hover).1
  obtain ⟨head', tree', host, host', hnames, hname, hhost, hhead, htree, -, hrev, -, hreport,
    hjobs⟩ := startFull_indexing hstart
  -- The run has seen the head and the tree that the service keeps showing.
  have hvalid := hhost Valid hrest.keeps hv
  have hhead' := hrest.head hname hvalid
  have hvalid' := hrest.keeps.head run.repo.repoId c.options.branch hvalid
  rw [hhead] at hhead' hvalid'
  cases hhead'
  have htree' := hrest.tree hname hvalid'
  have hvalid₁ := hrest.keeps.tree run.repo.repoId head hvalid'
  rw [htree] at htree' hvalid₁
  cases htree'
  unfold completeIn at hcomplete
  obtain ⟨⟨results, w₂⟩, hindex, hfinish⟩ := Option.map_eq_some_iff.mp hcomplete
  obtain ⟨hresult, hstore, hhost'⟩ := Run.finish_eq run results w₂
  have hnow' : (run.finish results w₂).2.now = w₂.now :=
    (store_withStatuses (fun r => r.fileDone run.repo.fullName) results w₂).2.2
  simp only at hfinish
  rw [hfinish] at hresult hstore hhost' hnow'
  simp only [Except.ok.injEq, Outcome.completed.injEq] at hresult hstore hhost' hnow'
  obtain ⟨hnow₂, hstocked⟩ := Run.indexIn_stocked (Store.hasRepo_of_names hnames) hindex
  have hmoves : Moves c Valid (fun _ => True) w₁ w₂ :=
    Run.indexIn_moves hrest.keeps (fun _ _ _ _ _ _ => trivial) hindex
  obtain ⟨hchanges, hvalid₂⟩ := hmoves hvalid₁
  have hreadable : w₂.now.isReadable = true := by
    have hstart' := now_startFull c repo force w
    rw [hstart] at hstart'
    rw [hnow₂, hstart']
    exact hnow
  refine ⟨run.repo.id, ?_, fun hzero => ?_, hhost' ▸ hvalid₂, hnow' ▸ hreadable⟩
  · rw [hstore, hrev]
    exact Store.getRepo_recordSync (hchanges.names hnames) head hreadable
  · have hcount : w₂.store.countFiles run.repo.id = 0 := by
      rw [← hzero, hstore]
      exact (Store.countFiles_of_fileTable (Store.fileTable_recordSync _ _ _ _) _).symm
    rw [hresult] at hclean
    have hnone := hstocked (Report.ok_of_filesFailed hclean) hcount
    rw [hjobs] at hnone
    exact List.map_eq_nil_iff.mp hnone

/-- What a sync leaves as it was: the files with their symbols, and all of the host that only
fetches change. -/
structure SameFiles (s : Remote.Service σ) (w w' : World σ) : Prop where
  table : w'.store.fileTable = w.store.fileTable
  host : ∀ {γ : Type} (view : σ → γ), s.Shields view → view w'.host = view w.host

theorem SameFiles.refl (s : Remote.Service σ) (w : World σ) : SameFiles s w w :=
  ⟨rfl, fun _ _ => rfl⟩

theorem SameFiles.trans {s : Remote.Service σ} {w₁ w₂ w₃ : World σ} (h : SameFiles s w₁ w₂)
    (h' : SameFiles s w₂ w₃) : SameFiles s w₁ w₃ :=
  ⟨h'.table.trans h.table, fun view hview => (h'.host view hview).trans (h.host view hview)⟩

/-- Time passes, leases come and go, and nothing else happens that a full sync depends on. -/
structure Idle (w w' : World σ) : Prop where
  repos : w'.store.repos = w.store.repos
  host : w'.host = w.host
  now : w'.now.isReadable = true

theorem Idle.sameFiles (s : Remote.Service σ) (h : Idle w w') : SameFiles s w w' :=
  ⟨Store.fileTable_of_repos h.repos, fun view _ => congrArg view h.host⟩

theorem Rested.idle (hw : Rested repo Valid head tree id w) (h : Idle w w') :
    Rested repo Valid head tree id w' where
  row := by
    unfold Store.getRepo
    rw [Store.entryNamed?_of_repos h.repos]
    exact hw.row
  empty hzero := hw.empty
    ((Store.countFiles_of_fileTable (Store.fileTable_of_repos h.repos) id).symm.trans hzero)
  valid := h.host ▸ hw.valid
  now := h.now

theorem completeIn_nil {run : Run} (hjobs : run.jobs = []) (order : List Nat) (w : World σ) :
    completeIn c order (.indexing run) w = some (run.finish [] w) := by
  have hcrew : (run.crew w).turns c run order = run.crew w := by
    refine Crew.turns_induction c run (· = run.crew w) ?_ order rfl
    rintro k k' rfl hstep
    cases hstep with
    | idle => rfl
    | on before after x stage w hworkers => simp [Run.crew, hjobs] at hworkers
    | ended before after x result w hworkers => simp [Run.crew, hjobs] at hworkers
  unfold completeIn Run.indexIn
  simp only [hcrew]
  simp [Run.crew, hjobs]

theorem Rested.openFull_upToDate {e : RepoEntry}
    (hrest : c.service.Rests repo c.options.branch Valid head tree)
    (hw : Rested repo Valid head tree e.row.id w)
    (hentry : w.store.entryNamed? repo.fullName = some e) (hmarker : e.row.lastRevision = some head)
    (hfiles : w.store.countFiles e.row.id ≠ 0) (holder : String) :
    ∃ w', openFull c e.row holder false w = (.over (.ok .upToDate), w') ∧
      Rested repo Valid head tree e.row.id w' ∧ SameFiles c.service w w' := by
  have hname : e.row.repoId.fullName = repo.fullName := fullName_of_entryNamed? hentry
  have hneed : needsSync e.row.lastRevision (w.store.countFiles e.row.id) head false = false := by
    unfold needsSync
    rw [hmarker]
    simp [hfiles]
  have hhead := hrest.head hname hw.valid
  have hvalid := hrest.keeps.head e.row.repoId c.options.branch hw.valid
  cases hask : c.service.head e.row.repoId c.options.branch w.host with
  | mk answer host =>
    rw [hask] at hhead hvalid
    cases hhead
    let w₁ : World σ := (dropLease { w with host } e.row.fullName holder).withStatus fun r =>
      r.clearQueued e.row.fullName
    have hopen : openFull c e.row holder false w = (.over (.ok .upToDate), w₁) := by
      unfold openFull
      simp only [hask, hneed]
      rfl
    refine ⟨w₁, hopen, ⟨hw.row, hw.empty, hvalid, hw.now⟩, rfl, fun view hview => ?_⟩
    have hsame := hview.head e.row.repoId c.options.branch w.host
    rw [hask] at hsame
    exact hsame

/-- Without files, the tree is listed and the run has nothing to index. -/
theorem Rested.openFull_empty {e : RepoEntry}
    (hrest : c.service.Rests repo c.options.branch Valid head tree)
    (hw : Rested repo Valid head tree e.row.id w)
    (hentry : w.store.entryNamed? repo.fullName = some e)
    (hfiles : w.store.countFiles e.row.id = 0) (holder : String) (order : List Nat) :
    ∃ phase w₁ w', openFull c e.row holder false w = (phase, w₁) ∧
      completeIn c order phase w₁ = some (.ok (.completed { revision := some head }), w') ∧
      Rested repo Valid head tree e.row.id w' ∧ SameFiles c.service w w' := by
  have hname : e.row.repoId.fullName = repo.fullName := fullName_of_entryNamed? hentry
  have hneed : needsSync e.row.lastRevision (w.store.countFiles e.row.id) head false = true := by
    unfold needsSync
    rw [hfiles]
    rfl
  have hhead := hrest.head hname hw.valid
  have hvalid := hrest.keeps.head e.row.repoId c.options.branch hw.valid
  cases hask : c.service.head e.row.repoId c.options.branch w.host with
  | mk answer host =>
    rw [hask] at hhead hvalid
    cases hhead
    have htree := hrest.tree hname hvalid
    have hvalid' := hrest.keeps.tree e.row.repoId head hvalid
    cases hlist : c.service.tree e.row.repoId head host with
    | mk answer host' =>
      rw [hlist] at htree hvalid'
      cases htree
      let run : Run :=
        { repo := e.row, holder, reference := head, revision := some head, force := false,
          report := {}, jobs := [] }
      let w₁ : World σ := ({ w with host := host' } : World σ).withStatus fun r =>
        (r.begin e.row.fullName w.now).setTotal e.row.fullName 0
      have hopen : openFull c e.row holder false w = (.indexing run, w₁) := by
        unfold openFull
        simp only [hask, hneed, World.withStatus, hlist, hw.empty hfiles]
        rfl
      obtain ⟨hresult, hstore, hhost⟩ := Run.finish_eq run [] w₁
      refine ⟨_, _, (run.finish [] w₁).2, hopen, ?_, ⟨?_, fun _ => hw.empty hfiles, ?_, hw.now⟩,
        ?_, ?_⟩
      · rw [completeIn_nil rfl]
        exact congrArg some (Prod.ext hresult rfl)
      · rw [hstore]
        exact Store.getRepo_recordSync ⟨e, hentry, rfl⟩ head hw.now
      · rw [hhost]
        exact hvalid'
      · rw [hstore]
        exact Store.fileTable_recordSync w.store e.row.id (some head) w.now
      · intro γ view hview
        have hsame := hview.head e.row.repoId c.options.branch w.host
        have hsame' := hview.tree e.row.repoId head host
        rw [hask] at hsame
        rw [hlist] at hsame'
        rw [hhost]
        exact hsame'.trans hsame

/-- A further full sync that is not forced and finds the lease free leaves the files as they are. -/
theorem Rested.sync (hrest : c.service.Rests repo c.options.branch Valid head tree)
    (hw : Rested repo Valid head tree id w)
    (hfree : LeaseFree w repo.fullName c.options.leaseTime) (order : List Nat) :
    ∃ w', fullSyncIn c order repo false w = some (restingAnswer w.store id head, w') ∧
      Rested repo Valid head tree id w' ∧ SameFiles c.service w w' := by
  obtain ⟨row, hget, rfl, hmarker⟩ := hw.row
  obtain ⟨e, hentry, rfl⟩ := entry_of_getRepo hget
  obtain ⟨holder, w₁, htake⟩ := takeLease_free hfree c.label
  have hidle : Idle w w₁ := by
    have hrepos := repos_takeLease w repo.fullName c.label c.options.leaseTime
    have hhost := host_takeLease w repo.fullName c.label c.options.leaseTime
    have hnow := now_takeLease w repo.fullName c.label c.options.leaseTime
    rw [htake] at hrepos hhost hnow
    exact ⟨hrepos, hhost, hnow ▸ hw.now⟩
  have hstart : startFull c repo false w = openFull c e.row holder false w₁ := by
    unfold startFull resolveRepo
    simp only [hget, htake]
  have hentry₁ : w₁.store.entryNamed? repo.fullName = some e :=
    (Store.entryNamed?_of_repos hidle.repos _).trans hentry
  have hcount : w₁.store.countFiles e.row.id = w.store.countFiles e.row.id :=
    Store.countFiles_of_fileTable (hidle.sameFiles c.service).table _
  unfold fullSyncIn restingAnswer
  rw [hstart]
  by_cases hzero : w.store.countFiles e.row.id = 0
  · obtain ⟨phase, w₂, w', hopen, hcomplete, hrested, hsame⟩ :=
      (hw.idle hidle).openFull_empty hrest hentry₁ (hcount.trans hzero) holder order
    refine ⟨w', ?_, hrested, (hidle.sameFiles c.service).trans hsame⟩
    rw [if_pos hzero, hopen]
    exact hcomplete
  · obtain ⟨w', hopen, hrested, hsame⟩ :=
      (hw.idle hidle).openFull_upToDate hrest hentry₁ hmarker (hcount ▸ hzero) holder
    refine ⟨w', ?_, hrested, (hidle.sameFiles c.service).trans hsame⟩
    rw [if_neg hzero, hopen]
    rfl

/-! ## Sequences of syncs -/

/-- Full syncs that are not forced, one after another, with their answers.  Each finds the lease
free, and between them time passes. -/
inductive Repeats (c : Setup σ) (repo : RepoId) (w : World σ) :
    List (Except Error Outcome) → World σ → Prop
  | none : Repeats c repo w [] w
  | idle {results : List (Except Error Outcome)} {w₁ w₂ : World σ} :
    Repeats c repo w results w₁ → Idle w₁ w₂ → Repeats c repo w results w₂
  | sync {results : List (Except Error Outcome)} {result : Except Error Outcome}
    {w₁ w₂ : World σ} (order : List Nat) : Repeats c repo w results w₁ →
    LeaseFree w₁ repo.fullName c.options.leaseTime →
    fullSyncIn c order repo false w₁ = some (result, w₂) →
    Repeats c repo w (results ++ [result]) w₂

theorem Rested.repeats (hrest : c.service.Rests repo c.options.branch Valid head tree)
    (hw : Rested repo Valid head tree id w) {results : List (Except Error Outcome)}
    (h : Repeats c repo w results w') :
    Rested repo Valid head tree id w' ∧ SameFiles c.service w w' ∧
      ∀ result ∈ results, result = restingAnswer w.store id head := by
  induction h with
  | none => exact ⟨hw, .refl _ _, fun _ hmem => nomatch hmem⟩
  | idle _ hidle ih =>
    obtain ⟨hrested, hsame, hanswers⟩ := ih
    exact ⟨hrested.idle hidle, hsame.trans (hidle.sameFiles _), hanswers⟩
  | @sync results result w₁ w₂ order _ hfree hsync ih =>
    obtain ⟨hrested, hsame, hanswers⟩ := ih
    obtain ⟨w₃, hsync', hrested', hsame'⟩ := hrested.sync hrest hfree order
    cases hsync.symm.trans hsync'
    have hanswer : restingAnswer w₁.store id head = restingAnswer w.store id head := by
      unfold restingAnswer
      rw [Store.countFiles_of_fileTable hsame.table]
    refine ⟨hrested', hsame.trans hsame', fun result hmem => ?_⟩
    cases List.mem_append.mp hmem with
    | inl hold => exact hanswers result hold
    | inr hnew => exact (List.mem_singleton.mp hnew).trans hanswer

end Rested

end Sync

end ContextIndex
