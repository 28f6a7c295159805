import ContextIndex.Proofs.Sync.Full
import ContextIndex.Proofs.Sync.Partial

/-!
# Partial syncs of which some files fail

A changed path can fail twice: when the identity of its content is looked up, and when it is
fetched.  Neither keeps a partial sync from its other paths.  What a host answers about each path is
a value (`PathReplies`), which tells the fate of the path (`PathReplies.fate`), and the lookups are
a loop whose outcome can be read off the fates (`lookUps_spec`).  So each path comes to what it is
alone: it keeps its row, or its row is gone, or it is that of the file at the host
(`partialSync_isolates`).
-/

namespace ContextIndex.Remote

open ContextIndex.Sync

/-! ## What is answered about a path -/

/-- The answers of a host about each path: the identity of its content and its file.  Either may be
a failure. -/
structure PathReplies where
  /-- The answer to the lookup of a path. -/
  contentId : String → Except RemoteError String
  /-- The answer to the fetch of a path. -/
  fetch : String → Except RemoteError File

/-- What becomes of a changed path. -/
inductive Fate
  /-- The host does not have it. -/
  | missing
  /-- Its lookup fails otherwise, or its fetch fails. -/
  | failing
  /-- The host has this file. -/
  | found (file : File)
deriving DecidableEq

/-- What its fate makes of the row of a changed path. -/
def Fate.Makes (y : SymbolSource) (path : String) (before after : Option FileRow) : Fate → Prop
  | .missing => after = none
  | .failing => after = before
  | .found file => after.map FileRow.core = some (y.rowOf path file)

namespace PathReplies

variable (x : PathReplies)

/-- The fate of a path.  One that the host does not have by the lookup is not fetched. -/
def fate (path : String) : Fate :=
  match x.contentId path with
  | .error e => if e.isNotFound then .missing else .failing
  | .ok _ => match x.fetch path with
    | .error _ => .failing
    | .ok file => .found file

/-- The lookup tells the identity of the file that is fetched. -/
def Coherent : Prop :=
  ∀ path id file, x.contentId path = .ok id → x.fetch path = .ok file → file.sha = id

/-- The file of a path that is looked up and has to be indexed. -/
def job? (path : String) : Option FileJob :=
  match x.contentId path with
  | .ok id => some ⟨path, some id⟩
  | .error _ => none

variable {x}

theorem fate_eq_missing {path : String} :
    x.fate path = .missing ↔ ∃ e, x.contentId path = .error e ∧ e.isNotFound = true := by
  unfold fate
  cases hid : x.contentId path with
  | error e => cases he : e.isNotFound <;> simp [he]
  | ok id => cases x.fetch path <;> simp

theorem fate_ne_missing {path id : String} (h : x.contentId path = .ok id) :
    x.fate path ≠ .missing := by
  intro hmissing
  obtain ⟨e, he, -⟩ := fate_eq_missing.mp hmissing
  cases h.symm.trans he

/-- A lookup that fails, other than because the host does not have the path, decides its fate. -/
theorem fate_eq_failing {path : String} {e : RemoteError} (h : x.contentId path = .error e)
    (he : e.isNotFound = false) : x.fate path = .failing := by
  simp [fate, h, he]

theorem job?_eq_some {path : String} {job : FileJob} :
    x.job? path = some job ↔ ∃ id, x.contentId path = .ok id ∧ job = ⟨path, some id⟩ := by
  unfold job?
  cases x.contentId path with
  | error e => simp
  | ok id => simp [eq_comm]

theorem job?_eq_none {path : String} :
    x.job? path = none ↔ ∃ e, x.contentId path = .error e := by
  unfold job?
  cases x.contentId path with
  | error e => simp
  | ok id => simp

end PathReplies

/-- While its state is one of these, a service gives these answers about the paths of a repository
at a reference. -/
structure Service.Replies {σ : Type} (s : Service σ) (repo : RepoId) (reference : String)
    (Valid : σ → Prop) (x : PathReplies) : Prop where
  keeps : s.Keeps Valid
  contentId : ∀ {h : σ} {id : RepoId} (path : String), id.fullName = repo.fullName → Valid h →
    (s.contentId id path reference h).1 = x.contentId path
  fetch : ∀ {h : σ} {id : RepoId} (path : String), id.fullName = repo.fullName → Valid h →
    (s.fetch id path reference h).1 = x.fetch path

theorem Service.Replies.answers {σ : Type} {s : Service σ} {repo id : RepoId} {reference : String}
    {Valid : σ → Prop} {x : PathReplies} (h : s.Replies repo reference Valid x)
    (hname : id.fullName = repo.fullName) :
    s.Answers id reference Valid fun _ path answer => answer = x.fetch path where
  keeps := h.keeps
  stays _ _ := ⟨fun _ h => h, fun _ _ h => h, fun _ _ h => h, fun _ _ _ h => h, fun _ _ _ h => h⟩
  answers path hv := h.fetch path hname hv

/-! ## Hosts in memory -/

/-- A host in memory answers from its repository, whatever the reference. -/
theorem Memory.service_replies (h₀ : Memory) {repo : RepoId} {r : MemoryRepo}
    (hr : h₀.repo? repo = some r) (reference : String) :
    Memory.service.Replies repo reference (fun h => h.repos = h₀.repos)
      ⟨Memory.contentIdIn r, Memory.fetchFrom r⟩ where
  keeps := Memory.service_keeps fun repos => repos = h₀.repos
  contentId _ hname hv := Memory.ask_eq _ hr hname hv
  fetch _ hname hv := Memory.ask_eq _ hr hname hv

theorem Memory.replies_coherent (r : MemoryRepo) :
    PathReplies.Coherent ⟨Memory.contentIdIn r, Memory.fetchFrom r⟩ := by
  intro path id file hid hfile
  obtain ⟨content, hcontent, rfl⟩ :=
    Option.map_eq_some_iff.mp (Memory.fileTree_of_fetchFrom hfile)
  simp only [Memory.contentIdIn, hcontent] at hid
  cases hid
  rfl

end ContextIndex.Remote

namespace ContextIndex.Sync

open ContextIndex.Remote (PathReplies Memory MemoryRepo widgets memorySetup worldOf)
open ContextIndex.Store (Names WellFormed)

variable {σ : Type} {c : Setup σ} {repo : RepoId} {row : RepoRow} {reference : String}
  {Valid : σ → Prop} {x : PathReplies}

/-! ## The lookups -/

theorem lookUp_failing {p : String} {l : Lookups σ} {host : σ} {e : RemoteError}
    (h : c.service.contentId row.repoId p reference l.world.host = (.error e, host))
    (he : e.isNotFound = false) :
    (lookUp c row reference l p).jobs = l.jobs ∧ (lookUp c row reference l p).world.host = host ∧
      (lookUp c row reference l p).world.store = l.world.store := by
  unfold lookUp
  simp only [h, he, Bool.false_eq_true, if_false, true_and]
  exact ⟨rfl, rfl⟩

/-- What one lookup makes of a path. -/
theorem lookUp_spec (hreplies : c.service.Replies repo reference Valid x)
    (hname : row.fullName = repo.fullName) {l : Lookups σ} (hv : Valid l.world.host) (p : String) :
    let l' := lookUp c row reference l p
    Valid l'.world.host ∧ l'.jobs = (x.job? p).toList ++ l.jobs ∧
      ∀ q, l'.world.store.file? row.id q =
        if q = p ∧ x.fate p = .missing then none else l.world.store.file? row.id q := by
  have hanswer := hreplies.contentId p hname hv
  have hvalid := hreplies.keeps.contentId row.repoId p reference hv
  cases hask : c.service.contentId row.repoId p reference l.world.host with
  | mk answer host =>
    rw [hask] at hanswer hvalid
    cases answer with
    | ok id =>
      have hfate : x.fate p ≠ .missing := PathReplies.fate_ne_missing hanswer.symm
      rw [lookUp_found hask]
      refine ⟨hvalid, ?_, fun q => ?_⟩
      · simp [PathReplies.job?, ← hanswer]
      · simp [hfate]
    | error e =>
      have hjob : x.job? p = none := PathReplies.job?_eq_none.mpr ⟨e, hanswer.symm⟩
      cases he : e.isNotFound with
      | true =>
        obtain ⟨hjobs, hhost, hstore⟩ := lookUp_missing hask he
        have hfate : x.fate p = .missing :=
          PathReplies.fate_eq_missing.mpr ⟨e, hanswer.symm, he⟩
        refine ⟨hhost ▸ hvalid, ?_, fun q => ?_⟩
        · simp [hjobs, hjob]
        · rw [hstore, Store.file?_deleteFile]
          simp [hfate]
      | false =>
        obtain ⟨hjobs, hhost, hstore⟩ := lookUp_failing hask he
        have hfate : x.fate p = .failing := PathReplies.fate_eq_failing hanswer.symm he
        refine ⟨hhost ▸ hvalid, ?_, fun q => ?_⟩
        · simp [hjobs, hjob]
        · simp [hstore, hfate]

/-- What the lookups of paths have made: the files of those that the host has, in order, and no row
of those that it does not have. -/
theorem lookUps_spec (hreplies : c.service.Replies repo reference Valid x)
    (hname : row.fullName = repo.fullName) (paths : List String) {l : Lookups σ}
    (hv : Valid l.world.host) :
    let l' := paths.foldl (lookUp c row reference) l
    Valid l'.world.host ∧ l'.jobs.reverse = l.jobs.reverse ++ paths.filterMap x.job? ∧
      ∀ q, l'.world.store.file? row.id q =
        if q ∈ paths ∧ x.fate q = .missing then none else l.world.store.file? row.id q := by
  induction paths generalizing l with
  | nil => exact ⟨hv, by simp, fun q => by simp⟩
  | cons p paths ih =>
    obtain ⟨hvalid, hjobs, hrows⟩ := lookUp_spec hreplies hname hv p
    obtain ⟨hvalid', hjobs', hrows'⟩ := ih hvalid
    refine ⟨hvalid', ?_, fun q => ?_⟩
    · refine hjobs'.trans ?_
      rw [hjobs]
      cases hjob : x.job? p with
      | none => simp [hjob]
      | some job => simp [hjob]
    · refine (hrows' q).trans ?_
      rw [hrows q]
      by_cases hq : q = p
      · subst hq
        by_cases hfate : x.fate q = .missing
        · simp [hfate]
        · simp [hfate]
      · simp [hq]

/-! ## One path among the others -/

theorem paths_jobs_sublist (paths : List String) :
    ((paths.filterMap x.job?).map FileJob.path).Sublist paths := by
  induction paths with
  | nil => exact .slnil
  | cons p paths ih =>
    cases hjob : x.job? p with
    | none => simpa [hjob] using ih.cons p
    | some job =>
      obtain ⟨id, -, rfl⟩ := PathReplies.job?_eq_some.mp hjob
      simpa [hjob] using ih.cons_cons p

/-- What a partial sync that has the lease has come to before it indexes files: its deleted paths
and those that the host does not have are gone, and the other changed paths are the files to
index. -/
theorem openPartial_spec {changes : ChangeSet} {w : World σ}
    (hreplies : c.service.Replies repo (changes.revision.getD c.options.branch) Valid x)
    (hname : row.fullName = repo.fullName) (holder : String) (hv : Valid w.host) :
    ∃ run w₁, openPartial c row holder changes w = (.indexing run, w₁) ∧ Valid w₁.host ∧
      run.repo = row ∧ run.reference = changes.revision.getD c.options.branch ∧
      run.revision = changes.revision ∧ run.force = false ∧
      run.jobs = (changes.changed.filter Language.isIndexable).filterMap x.job? ∧
      (∀ repo, w₁.store.marker repo = w.store.marker repo) ∧
      ∀ q, w₁.store.file? row.id q =
        if q ∈ changes.changed.filter Language.isIndexable ∧ x.fate q = .missing then none
        else if q ∈ changes.deleted then none else w.store.file? row.id q := by
  obtain ⟨hhost, hmarker, hrows⟩ := deletePaths_spec row changes.deleted
    ({}, w.withStatus fun r => r.begin row.fullName w.now)
  unfold openPartial
  simp only
  generalize changes.deleted.foldl (fun acc p => deletePath row p acc)
    ({}, w.withStatus fun r => r.begin row.fullName w.now) = deleted at hhost hmarker hrows ⊢
  obtain ⟨report, v⟩ := deleted
  obtain ⟨hvalid, hjobs, hfiles⟩ := lookUps_spec hreplies hname
    (changes.changed.filter Language.isIndexable)
    (l := ⟨report, [], v.withStatus fun r =>
      r.setTotal row.fullName (changes.changed.filter Language.isIndexable).length⟩)
    (hhost ▸ hv : Valid v.host)
  refine ⟨_, _, rfl, hvalid, rfl, rfl, rfl, rfl, hjobs, fun repo => ?_, fun q => ?_⟩
  · exact (marker_lookUps _ _ _ _ repo).trans (hmarker repo)
  · have hdeleted : v.store.file? row.id q =
        if q ∈ changes.deleted then none else w.store.file? row.id q := hrows q
    rw [hfiles q, ← hdeleted]
    rfl

theorem notMem_paths_jobs {p : String} (h : x.job? p = none) (paths : List String) :
    p ∉ (paths.filterMap x.job?).map FileJob.path := by
  intro hmem
  obtain ⟨job, hjob, rfl⟩ := List.mem_map.mp hmem
  obtain ⟨q, -, hq⟩ := List.mem_filterMap.mp hjob
  obtain ⟨id, -, rfl⟩ := PathReplies.job?_eq_some.mp hq
  cases h.symm.trans hq

/-- A path that no worker is given has come to what its fate makes of it by the lookups alone. -/
theorem makes_of_job?_eq_none {y : SymbolSource} {p : String} {paths : List String}
    {before : Option FileRow} (h : x.job? p = none) (hp : p ∈ paths) :
    (x.fate p).Makes y p before (if p ∈ paths ∧ x.fate p = .missing then none else before) := by
  obtain ⟨e, he⟩ := PathReplies.job?_eq_none.mp h
  cases hnotFound : e.isNotFound with
  | true =>
    have hfate : x.fate p = .missing := PathReplies.fate_eq_missing.mpr ⟨e, he, hnotFound⟩
    simp [hfate, hp, Remote.Fate.Makes]
  | false =>
    simp [PathReplies.fate_eq_failing he hnotFound, Remote.Fate.Makes]

/-- A path that a worker is given comes to what its fate makes of it when the worker is done. -/
theorem makes_of_ended {y : SymbolSource} {Genuine : Remote.File → Prop} {p id : String}
    {before after : Option FileRow} {result : Except Error FileOutcome} (hcoherent : x.Coherent)
    (hgenuine : ∀ p file, x.fetch p = .ok file → Genuine file) (hfree : CollisionFree Genuine)
    (hid : x.contentId p = .ok id) (hrow : ∀ f ∈ before, Traced y Genuine p f)
    (h : Ended y false (· = x.fetch p) ⟨p, some id⟩ before result after) :
    (x.fate p).Makes y p before after := by
  cases hfetch : x.fetch p with
  | error e =>
    have hfate : x.fate p = .failing := by simp [PathReplies.fate, hid, hfetch]
    rw [hfetch] at h
    rw [hfate]
    exact h.eq_of_error
  | ok file =>
    have hfate : x.fate p = .found file := by simp [PathReplies.fate, hid, hfetch]
    rw [hfetch] at h
    rw [hfate]
    refine h.core_eq hrow hfree (hgenuine p file hfetch) ?_
    rintro _ ⟨⟩
    exact (hcoherent p id file hid hfetch).symm

/-- A changed path comes to what its fate makes of it, whether a worker is given it or not. -/
theorem makes_of_lookUps {y : SymbolSource} {Genuine : Remote.File → Prop} {p : String}
    {paths : List String} {before middle after : Option FileRow} (hcoherent : x.Coherent)
    (hgenuine : ∀ p file, x.fetch p = .ok file → Genuine file) (hfree : CollisionFree Genuine)
    (hp : p ∈ paths) (hrow : ∀ f ∈ before, Traced y Genuine p f)
    (hmiddle : middle = if p ∈ paths ∧ x.fate p = .missing then none else before)
    (hothers : p ∉ (paths.filterMap x.job?).map FileJob.path → after = middle)
    (hended : ∀ job ∈ paths.filterMap x.job?, job.path = p →
      ∃ result, Ended y false (· = x.fetch p) job middle result after) :
    (x.fate p).Makes y p before after := by
  cases hjob : x.job? p with
  | none =>
    rw [hothers (notMem_paths_jobs hjob paths), hmiddle]
    exact makes_of_job?_eq_none hjob hp
  | some job =>
    obtain ⟨id, hid, rfl⟩ := PathReplies.job?_eq_some.mp hjob
    obtain ⟨result, hend⟩ := hended ⟨p, some id⟩ (List.mem_filterMap.mpr ⟨p, hp, hjob⟩) rfl
    rw [if_neg fun h => PathReplies.fate_ne_missing hid h.2] at hmiddle
    rw [hmiddle] at hend
    exact makes_of_ended hcoherent hgenuine hfree hid hrow hend

/-- A partial sync that has the lease makes of each changed path what its fate asks for, whatever
becomes of the others, and of every other path what its deletions make of it. -/
theorem completeIn_isolates {Genuine : Remote.File → Prop} {holder : String} {changes : ChangeSet}
    {order : List Nat} {w w' : World σ} {result : Except Error Outcome}
    (hstore : Produced c.source Genuine w.store) (hfree : CollisionFree Genuine)
    (hreplies : c.service.Replies repo (changes.revision.getD c.options.branch) Valid x)
    (hcoherent : x.Coherent) (hgenuine : ∀ p file, x.fetch p = .ok file → Genuine file)
    (hnodup : changes.changed.Nodup) (hname : row.fullName = repo.fullName)
    (hnames : w.store.Names repo row.id) (hv : Valid w.host)
    (h : completeIn c order (openPartial c row holder changes w).1
      (openPartial c row holder changes w).2 = some (result, w')) :
    w'.store.marker repo = changes.revision.or (w.store.marker repo) ∧
      ∀ p,
        let before := if p ∈ changes.deleted then none else w.store.rowAt repo p
        if p ∈ changes.changed ∧ Language.isIndexable p = true then
          (x.fate p).Makes c.source p before (w'.store.rowAt repo p)
        else w'.store.rowAt repo p = before := by
  obtain ⟨run, w₁, hopen, hv₁, rfl, href, hrev, hforce, hjobs, hmarker, hrows⟩ :=
    openPartial_spec hreplies hname holder hv
  have hmoves : Moves c Valid (fun _ => True) w _ :=
    openPartial_moves hreplies.keeps run.repo holder changes w
  rw [hopen] at h hmoves
  obtain ⟨hchanges, -⟩ := hmoves hv
  have hwf₁ := hchanges.wellFormed hstore.wellFormed
  have hnames₁ := hchanges.names hnames
  have hsublist : (run.jobs.map FileJob.path).Sublist
      (changes.changed.filter Language.isIndexable) := hjobs ▸ paths_jobs_sublist _
  obtain ⟨results, -, -, -, hended, hothers, hrecorded⟩ := completeIn_indexing
    (href ▸ hreplies.answers hname) (hsublist.nodup (hnodup.filter _)) hwf₁ hnames₁ hv₁ h
  have hfirst (p : String) : w₁.store.rowAt repo p =
      if p ∈ changes.changed.filter Language.isIndexable ∧ x.fate p = .missing then none
      else if p ∈ changes.deleted then none else w.store.rowAt repo p := by
    rw [Store.rowAt_eq_file? hwf₁ hnames₁, Store.rowAt_eq_file? hstore.wellFormed hnames, hrows]
  refine ⟨by rw [hrecorded, hrev, hmarker], fun p => ?_⟩
  by_cases hp : p ∈ changes.changed.filter Language.isIndexable
  · simp only [List.mem_filter.mp hp, and_self, if_true]
    refine makes_of_lookUps hcoherent hgenuine hfree hp (fun f hf => ?_) (hfirst p)
      (fun hnot => hothers p (hjobs ▸ hnot)) fun job hjob hpath => ?_
    · split at hf
      · cases hf
      · exact hstore.derived.traced repo p f hf
    · obtain ⟨result, -, hend⟩ := hended job (hjobs ▸ hjob)
      rw [hforce, hpath] at hend
      exact ⟨result, hend⟩
  · have hnot : p ∉ run.jobs.map FileJob.path := fun h => hp (hsublist.subset h)
    rw [if_neg fun h => hp (List.mem_filter.mpr h), hothers p hnot, hfirst p,
      if_neg fun h => hp h.1]

/-! ## Every path of a partial sync -/

/-- A partial sync that completes has had the lease of its repository. -/
theorem partialSyncIn_completed {changes : ChangeSet} {order : List Nat} {w w' : World σ}
    {r : Report} (h : partialSyncIn c order repo changes w = some (.ok (.completed r), w')) :
    ∃ row holder w₁, storedRepo repo w = .ok row ∧
      awaitLease w row.fullName c.label c.options.leaseTime
        (.start w.clock c.options.leaseWait) = (.ok (some holder), w₁) ∧
      completeIn c order (openPartial c row holder changes w₁).1
        (openPartial c row holder changes w₁).2 = some (.ok (.completed r), w') := by
  unfold partialSyncIn at h
  cases hrow : storedRepo repo w with
  | error e => rw [hrow] at h; cases h
  | ok row =>
    simp only [hrow] at h
    cases hlease : awaitLease w row.fullName c.label c.options.leaseTime
        (.start w.clock c.options.leaseWait) with
    | mk taken w₁ =>
      rw [hlease] at h
      cases taken with
      | error e => cases h
      | ok holder =>
        cases holder with
        | none =>
          simp only [Option.some.injEq, Prod.mk.injEq] at h
          have hreport := isReport_alreadyRunning (w₁.progress row.fullName)
          rw [h.1] at hreport
          cases hreport
        | some holder => exact ⟨row, holder, w₁, rfl, hlease, h⟩

/-- A partial sync that completes isolates failures, whatever its change set and the order in which
its files are done.  What it has not caught up with, because no change is named, because the path is
not to be indexed or because its lookup or fetch has failed, keeps its row, unless it is deleted.
Every other changed path is gone if the host does not have it, and else it has the row of the file
at the host.  The marker is the revision of the change set, if it has one. -/
theorem partialSync_isolates {Genuine : Remote.File → Prop} {changes : ChangeSet}
    {order : List Nat} {w w' : World σ} {r : Report}
    (hstore : Produced c.source Genuine w.store) (hfree : CollisionFree Genuine)
    (hreplies : c.service.Replies repo (changes.revision.getD c.options.branch) Valid x)
    (hcoherent : x.Coherent) (hgenuine : ∀ p file, x.fetch p = .ok file → Genuine file)
    (hnodup : changes.changed.Nodup) (hv : Valid w.host)
    (h : partialSyncIn c order repo changes w = some (.ok (.completed r), w')) :
    (∀ p, p ∉ changes.deleted →
      p ∉ changes.changed ∨ Language.isIndexable p = false ∨ x.fate p = .failing →
      w'.store.rowAt repo p = w.store.rowAt repo p) ∧
    (∀ p ∈ changes.deleted,
      p ∉ changes.changed ∨ Language.isIndexable p = false ∨ x.fate p = .failing →
      w'.store.rowAt repo p = none) ∧
    (∀ p ∈ changes.changed, Language.isIndexable p = true → x.fate p = .missing →
      w'.store.rowAt repo p = none) ∧
    (∀ p ∈ changes.changed, Language.isIndexable p = true → ∀ file, x.fate p = .found file →
      (w'.store.rowAt repo p).map FileRow.core = some (c.source.rowOf p file)) ∧
    w'.store.marker repo = changes.revision.or (w.store.marker repo) := by
  obtain ⟨row, holder, w₁, hrow, hawait, hcomplete⟩ := partialSyncIn_completed h
  obtain ⟨entry, hentry, rfl⟩ := entry_of_getRepo (getRepo_of_storedRepo hrow)
  have hname : entry.row.fullName = repo.fullName := fullName_of_entryNamed? hentry
  have hnames : w.store.Names repo entry.row.id := ⟨entry, hentry, rfl⟩
  have hwait : Waited c Genuine w w₁ := awaitLease_waited hawait
  obtain ⟨hchanges, hv₁⟩ := hwait.moves Valid hv
  have hbefore (p : String) : w₁.store.rowAt repo p = w.store.rowAt repo p :=
    Store.rowAt_of_repos hwait.repos repo p
  obtain ⟨hmarker, hpaths⟩ := completeIn_isolates (hstore.trans hchanges) hfree hreplies hcoherent
    hgenuine hnodup hname (hnames.of_repos hwait.repos) hv₁ hcomplete
  simp only [hbefore] at hpaths
  -- What a path that is not caught up with has after the deletions.
  have hkept (p : String)
      (hp : p ∉ changes.changed ∨ Language.isIndexable p = false ∨ x.fate p = .failing) :
      w'.store.rowAt repo p =
        if p ∈ changes.deleted then none else w.store.rowAt repo p := by
    have hpath := hpaths p
    by_cases hboth : p ∈ changes.changed ∧ Language.isIndexable p = true
    · rw [if_pos hboth] at hpath
      obtain hnot | hnot | hfate := hp
      · exact absurd hboth.1 hnot
      · rw [hboth.2] at hnot
        cases hnot
      · rw [hfate] at hpath
        exact hpath
    · rw [if_neg hboth] at hpath
      exact hpath
  refine ⟨fun p hdeleted hp => ?_, fun p hdeleted hp => ?_, fun p hchanged hindexable hfate => ?_,
    fun p hchanged hindexable file hfate => ?_, ?_⟩
  · rw [hkept p hp, if_neg hdeleted]
  · rw [hkept p hp, if_pos hdeleted]
  · have hpath := hpaths p
    rw [if_pos ⟨hchanged, hindexable⟩, hfate] at hpath
    exact hpath
  · have hpath := hpaths p
    rw [if_pos ⟨hchanged, hindexable⟩, hfate] at hpath
    exact hpath
  · rw [hmarker, Store.marker_of_repos hwait.repos]

/-- The store with both files is one that a run has made. -/
theorem produced_outdated {contents : List String}
    (hcontents : ∀ s ∈ twoFiles.files.map Prod.snd, s ∈ contents) :
    Produced memorySetup.source (Memory.FileOf contents) outdated := by
  obtain ⟨order, h⟩ := fullSync_isOrder memorySetup widgets false (worldOf twoFiles {})
  have hmoves : Moves memorySetup (Memory.AtVersion widgets fun _ => twoFiles)
      (Memory.FileOf contents) (worldOf twoFiles {}) _ :=
    fullSyncIn_moves (Memory.service_keeps fun repos => ∃ _ : Nat, repos = _)
      (Memory.service_gives fun _ => hcontents) h
  exact (hmoves ⟨0, rfl⟩).1

/-- The repository with two files after both have changed, when one of them cannot be fetched. -/
def halfReachable : MemoryRepo :=
  { head := "c2"
    files := [("a.py", "def f():\n    return 2\n"), ("b.py", "B = 3\n")]
    failing := ["b.py"] }

/-- A change set that names both files and one that the repository does not have. -/
def threeChanges : ChangeSet :=
  { changed := ["a.py", "b.py", "c.py"], deleted := ["a.py"], revision := some "c2" }

theorem partialSync_isolates_halfReachable :
    ∃ r w', partialSyncIn memorySetup [1, 0, 1, 0, 0, 0] widgets threeChanges
        (worldOf halfReachable outdated) = some (.ok (.completed r), w') ∧
      w'.store.rowAt widgets "b.py" = outdated.rowAt widgets "b.py" ∧
      w'.store.rowAt widgets "c.py" = none ∧
      (w'.store.rowAt widgets "a.py").map FileRow.core =
        some (memorySetup.source.rowOf "a.py" ⟨"def f():\n    return 2\n",
          Memory.contentIdOf "def f():\n    return 2\n"⟩) ∧
      w'.store.marker widgets = some "c2" := by
  obtain ⟨r, w', h, -⟩ := exists_completed (P := fun _ => true) (y := partialSyncIn memorySetup
    [1, 0, 1, 0, 0, 0] widgets threeChanges (worldOf halfReachable outdated)) (by decide +kernel)
  let contents := (twoFiles.files ++ halfReachable.files).map Prod.snd
  have hstore : Produced memorySetup.source (Memory.FileOf contents)
      (worldOf halfReachable outdated).store := produced_outdated (by decide)
  have hreplies := Memory.service_replies (worldOf halfReachable outdated).host
    (Memory.repo?_single widgets halfReachable)
    (threeChanges.revision.getD memorySetup.options.branch)
  obtain ⟨hkept, -, hgone, hcaught, hmarker⟩ := partialSync_isolates hstore
    (Memory.collisionFree_fileOf (by decide +kernel)) hreplies
    (Memory.replies_coherent halfReachable)
    (fun p file hfile => (Memory.fileOf_fileTree (Memory.fileTree_of_fetchFrom hfile)).mono
      (by decide)) (by decide) rfl h
  exact ⟨r, w', h, hkept "b.py" (by decide) (.inr (.inr rfl)),
    hgone "c.py" (by decide) (by decide +kernel) rfl,
    hcaught "a.py" (by decide) (by decide +kernel) _ rfl, hmarker⟩

end ContextIndex.Sync
