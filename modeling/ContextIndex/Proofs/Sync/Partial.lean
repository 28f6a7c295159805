import ContextIndex.Proofs.Remote.Tree
import ContextIndex.Proofs.Sync.Completion

/-!
# Partial syncs

A partial sync deletes, then looks its changed paths up and indexes those that the host has.  The
lookups are a loop with an invariant (`Found`); with it and the end of each file, a partial sync has
caught each of its changed paths up with a file that the host may show, or with there being none
(`completeIn_partial`).
-/

namespace ContextIndex.Sync

open ContextIndex.Remote (Fetched)
open ContextIndex.Store (Names WellFormed)

/-! ## Catching up with the host -/

/-- What has become of a row when its path was caught up with the host: it is the row of a file that
was seen there, it is gone as there was none, or the file was lost while it was fetched and the row
is as before. -/
inductive Caught (y : SymbolSource) (sees : Option Remote.File → Prop) (path : String)
    (before : Option FileRow) : Option FileRow → Prop
  | row (file : Remote.File) (after : Option FileRow) : sees (some file) →
    after.map FileRow.core = some (y.rowOf path file) → Caught y sees path before after
  | gone : sees none → Caught y sees path before none
  | lost (file : Remote.File) : sees (some file) → sees none → Caught y sees path before before

section Caught

variable {y : SymbolSource} {sees : Option Remote.File → Prop} {path : String}
  {before after : Option FileRow}

/-- If nothing but one file was seen, the row is that of the file. -/
theorem Caught.core_eq {file : Remote.File} (h : Caught y sees path before after)
    (hsees : ∀ f, sees f → f = some file) : after.map FileRow.core = some (y.rowOf path file) := by
  cases h with
  | row file' after hfile' hcore =>
    cases hsees _ hfile'
    exact hcore
  | gone hnone => cases hsees _ hnone
  | lost file' hfile' hnone => cases hsees _ hnone

/-- If the row is there, a file was seen. -/
theorem Caught.exists_seen (h : Caught y sees path before after) (hafter : after ≠ none) :
    ∃ file, sees (some file) := by
  cases h with
  | row file after hsees hcore => exact ⟨file, hsees⟩
  | gone hnone => exact absurd rfl hafter
  | lost file hsees hnone => exact ⟨file, hsees⟩

/-- If no file was seen, the row is gone. -/
theorem Caught.eq_none (h : Caught y sees path before after) (hsees : ∀ file, ¬sees (some file)) :
    after = none := by
  cases h with
  | row file after hfile hcore => exact absurd hfile (hsees file)
  | gone hnone => rfl
  | lost file hfile hnone => exact absurd hfile (hsees file)

end Caught

/-- A file whose identity was seen has been caught up with when it has ended. -/
theorem Ended.caught {y : SymbolSource} {force : Bool} {sees : Option Remote.File → Prop}
    {Genuine : Remote.File → Prop} {job : FileJob} {before after : Option FileRow}
    {result : Except Error FileOutcome} {file : Remote.File}
    (hrow : ∀ f ∈ before, Traced y Genuine job.path f) (hfree : CollisionFree Genuine)
    (hgenuine : ∀ file, sees (some file) → Genuine file) (hsees : sees (some file))
    (hknown : job.known = some file.sha)
    (h : Ended y force (Fetched sees) job before result after) :
    Caught y sees job.path before after := by
  cases h with
  | known hsettled =>
    refine .row file _ hsees (core_of_isSettled hrow hfree (hgenuine file hsees) ?_ hsettled)
    intro id hid
    rw [hknown] at hid
    cases hid
    rfl
  | failed e hneed ha => exact .lost file hsees ha
  | same file' hneed ha hsame =>
    exact .row file' _ ha (core_of_isSame hrow hfree (hgenuine file' ha) hsame)
  | written file' id now hneed ha hsame => exact .row file' _ ha rfl

/-! ## Deletions -/

section Partial

variable {σ : Type} {c : Setup σ}

/-- A partial sync deletes the rows of its deleted paths and asks the host nothing. -/
theorem deletePaths_spec (row : RepoRow) (paths : List String) (acc : Report × World σ) :
    let after := (paths.foldl (fun acc p => deletePath row p acc) acc).2
    after.host = acc.2.host ∧
      (∀ repo, after.store.marker repo = acc.2.store.marker repo) ∧
      ∀ q, after.store.file? row.id q =
        if q ∈ paths then none else acc.2.store.file? row.id q := by
  induction paths generalizing acc with
  | nil => exact ⟨rfl, fun _ => rfl, fun _ => (if_neg List.not_mem_nil).symm⟩
  | cons p paths ih =>
    obtain ⟨hhost, hmarker, hrows⟩ := ih (deletePath row p acc)
    refine ⟨hhost, fun repo => (hmarker repo).trans ?_, fun q => (hrows q).trans ?_⟩
    · exact Store.marker_modify _ _ _ (Store.keepsIdentity_delete p) fun _ => rfl
    · show (if q ∈ paths then none else (acc.2.store.deleteFile row.id p).2.file? row.id q) = _
      rw [Store.file?_deleteFile]
      by_cases hq : q ∈ paths
      · simp [hq]
      · by_cases hp : q = p <;> simp [hq, hp]

/-! ## Lookups -/

/-- What the lookups of paths have come to: a path that the host has is a job with the identity of a
file seen there, a path that it does not have is deleted, and every other row is as before. -/
structure Found (row : RepoRow) (Valid : σ → Prop)
    (Sees : σ → String → Option Remote.File → Prop) (before : String → Option FileRow)
    (paths : List String) (x : Lookups σ) : Prop where
  valid : Valid x.world.host
  distinct : (x.jobs.map FileJob.path).Nodup
  among : ∀ job ∈ x.jobs, job.path ∈ paths
  looked : ∀ p ∈ paths,
    (∃ file, Sees x.world.host p (some file) ∧ ⟨p, some file.sha⟩ ∈ x.jobs ∧
      x.world.store.file? row.id p = before p) ∨
    (Sees x.world.host p none ∧ p ∉ x.jobs.map FileJob.path ∧
      x.world.store.file? row.id p = none)
  others : ∀ p, p ∉ paths → x.world.store.file? row.id p = before p

theorem lookUp_found {row : RepoRow} {reference p id : String} {x : Lookups σ} {host : σ}
    (h : c.service.contentId row.repoId p reference x.world.host = (.ok id, host)) :
    lookUp c row reference x p =
      { x with jobs := ⟨p, some id⟩ :: x.jobs, world := { x.world with host } } := by
  unfold lookUp
  simp only [h]

theorem lookUp_missing {row : RepoRow} {reference p : String} {x : Lookups σ} {host : σ}
    {e : RemoteError}
    (h : c.service.contentId row.repoId p reference x.world.host = (.error e, host))
    (he : e.isNotFound = true) :
    (lookUp c row reference x p).jobs = x.jobs ∧ (lookUp c row reference x p).world.host = host ∧
      (lookUp c row reference x p).world.store = (x.world.store.deleteFile row.id p).2 := by
  unfold lookUp
  simp only [h, he, if_true, true_and]
  exact ⟨rfl, rfl⟩

variable {row : RepoRow} {reference : String} {Valid : σ → Prop}
  {Sees : σ → String → Option Remote.File → Prop} {before : String → Option FileRow}

theorem Found.step (hserves : c.service.Serves row.repoId reference Valid Sees)
    {paths : List String} {x : Lookups σ} (hx : Found row Valid Sees before paths x) {p : String}
    (hp : p ∉ paths) : Found row Valid Sees before (paths ++ [p]) (lookUp c row reference x p) := by
  have hanswer := hserves.contentId p hx.valid
  have hvalid := hserves.keeps.contentId row.repoId p reference hx.valid
  have hstays (q : String) (f : Option Remote.File) (h : Sees x.world.host q f) :=
    (hserves.stays q f).contentId row.repoId p reference h
  have hfresh : p ∉ x.jobs.map FileJob.path := by
    intro hmem
    obtain ⟨job, hjob, rfl⟩ := List.mem_map.mp hmem
    exact hp (hx.among job hjob)
  cases hask : c.service.contentId row.repoId p reference x.world.host with
  | mk answer host =>
    rw [hask] at hanswer hvalid hstays
    cases answer with
    | ok id =>
      -- The path becomes a job, and no row changes.
      obtain ⟨file, rfl, hsees⟩ := hanswer
      rw [lookUp_found hask]
      refine ⟨hvalid, ?_, ?_, ?_, fun q hq => hx.others q fun h => hq (List.mem_append_left _ h)⟩
      · exact List.nodup_cons.mpr ⟨hfresh, hx.distinct⟩
      · intro job hjob
        cases hjob with
        | head => simp
        | tail _ hjob => exact List.mem_append_left _ (hx.among job hjob)
      · intro q hq
        rw [List.mem_append, List.mem_singleton] at hq
        rcases hq with hq | rfl
        · refine (hx.looked q hq).imp ?_ ?_
          · rintro ⟨f, hf, hjob, hrow⟩
            exact ⟨f, hstays q _ hf, .tail _ hjob, hrow⟩
          · rintro ⟨hf, hjob, hrow⟩
            refine ⟨hstays q _ hf, ?_, hrow⟩
            rw [List.map_cons, List.mem_cons, not_or]
            exact ⟨fun heq : q = p => hp (heq ▸ hq), hjob⟩
        · exact .inl ⟨file, hsees, .head _, hx.others q hp⟩
    | error e =>
      -- The row of the path goes, and no job is added.
      obtain ⟨hnotFound, hsees⟩ := hanswer
      obtain ⟨hjobs, hhost, hstore⟩ := lookUp_missing hask hnotFound
      have hrow (q : String) : (lookUp c row reference x p).world.store.file? row.id q =
          if q = p then none else x.world.store.file? row.id q := by
        rw [hstore, Store.file?_deleteFile]
        simp
      refine ⟨hhost ▸ hvalid, hjobs ▸ hx.distinct, ?_, ?_, ?_⟩
      · exact fun job hjob => List.mem_append_left _ (hx.among job (hjobs ▸ hjob))
      · intro q hq
        rw [hjobs, hhost]
        rw [List.mem_append, List.mem_singleton] at hq
        rcases hq with hq | rfl
        · have hne : q ≠ p := fun heq => hp (heq ▸ hq)
          rw [hrow, if_neg hne]
          refine (hx.looked q hq).imp ?_ ?_
          · rintro ⟨f, hf, hjob, hbefore⟩
            exact ⟨f, hstays q _ hf, hjob, hbefore⟩
          · rintro ⟨hf, hjob, hnone⟩
            exact ⟨hstays q _ hf, hjob, hnone⟩
        · exact .inr ⟨hsees, hfresh, by rw [hrow, if_pos rfl]⟩
      · intro q hq
        rw [List.mem_append, List.mem_singleton, not_or] at hq
        rw [hrow, if_neg hq.2]
        exact hx.others q hq.1

/-- The lookups of a run, path after path. -/
theorem Found.foldl (hserves : c.service.Serves row.repoId reference Valid Sees)
    {todo : List String} : ∀ {paths : List String} {x : Lookups σ},
      Found row Valid Sees before paths x → (paths ++ todo).Nodup →
      Found row Valid Sees before (paths ++ todo) (todo.foldl (lookUp c row reference) x) := by
  induction todo with
  | nil =>
    intro paths x hx _
    rw [List.append_nil]
    exact hx
  | cons p todo ih =>
    intro paths x hx hnodup
    have hp : p ∉ paths := fun hmem =>
      (List.nodup_append.mp hnodup).2.2 p hmem p (.head _) rfl
    have hnext := ih (hx.step hserves hp) (by simpa using hnodup)
    simpa using hnext

theorem Found.all (hserves : c.service.Serves row.repoId reference Valid Sees)
    {todo : List String} {x : Lookups σ} (hx : Found row Valid Sees before [] x)
    (hnodup : todo.Nodup) :
    Found row Valid Sees before todo (todo.foldl (lookUp c row reference) x) :=
  hx.foldl hserves hnodup

theorem marker_lookUps (row : RepoRow) (reference : String) (paths : List String)
    (x : Lookups σ) (repo : RepoId) :
    (paths.foldl (lookUp c row reference) x).world.store.marker repo =
      x.world.store.marker repo := by
  induction paths generalizing x with
  | nil => rfl
  | cons p paths ih =>
    refine (ih _).trans ?_
    unfold lookUp
    simp only
    split
    · rfl
    · split
      · exact Store.marker_modify _ _ _ (Store.keepsIdentity_delete p) fun _ => rfl
      · rfl

/-! ## The start and the end of a partial sync -/

/-- What the deletions and lookups of a partial sync have come to. -/
theorem openPartial_found (row : RepoRow) (holder : String) (changes : ChangeSet) (w : World σ)
    (hserves : c.service.Serves row.repoId (changes.revision.getD c.options.branch) Valid Sees)
    (hnodup : changes.changed.Nodup) (hv : Valid w.host) :
    ∃ run w₁, openPartial c row holder changes w = (.indexing run, w₁) ∧
      run.repo = row ∧ run.reference = changes.revision.getD c.options.branch ∧
      run.revision = changes.revision ∧ run.force = false ∧
      (∀ repo, w₁.store.marker repo = w.store.marker repo) ∧
      ∃ report, Found row Valid Sees
        (fun p => if p ∈ changes.deleted then none else w.store.file? row.id p)
        (changes.changed.filter Language.isIndexable) ⟨report, run.jobs.reverse, w₁⟩ := by
  obtain ⟨hhost, hmarker, hrows⟩ := deletePaths_spec row changes.deleted
    ({}, w.withStatus fun r => r.begin row.fullName w.now)
  unfold openPartial
  refine ⟨_, _, rfl, rfl, rfl, rfl, rfl, fun repo => ?_, ?_⟩
  · exact (marker_lookUps _ _ _ _ repo).trans (hmarker repo)
  · rw [List.reverse_reverse]
    refine ⟨_, Found.all hserves ⟨?_, .nil, nofun, nofun, fun p _ => hrows p⟩ (hnodup.filter _)⟩
    exact hhost ▸ hv

/-- A partial sync that holds the lease completes.  It has caught its changed paths up with the
host, has deleted its other deleted paths, has left every other row alone and has recorded its
revision. -/
theorem completeIn_partial {Genuine : Remote.File → Prop} {repo : RepoId} {holder : String}
    {changes : ChangeSet} {order : List Nat} {w w' : World σ} {result : Except Error Outcome}
    (hserves : c.service.Serves row.repoId (changes.revision.getD c.options.branch) Valid Sees)
    (hgenuine : ∀ h p file, Sees h p (some file) → Genuine file) (hfree : CollisionFree Genuine)
    (hrows : ∀ p, ∀ f ∈ w.store.rowAt repo p, Traced c.source Genuine p f)
    (hwf : w.store.WellFormed) (hnames : w.store.Names repo row.id)
    (hnodup : changes.changed.Nodup) (hv : Valid w.host)
    (h : completeIn c order (openPartial c row holder changes w).1
      (openPartial c row holder changes w).2 = some (result, w')) :
    (∃ r, result = .ok (.completed r)) ∧ Valid w'.host ∧
      w'.store.marker repo = changes.revision.or (w.store.marker repo) ∧
      ∀ p,
        let before := if p ∈ changes.deleted then none else w.store.rowAt repo p
        if p ∈ changes.changed ∧ Language.isIndexable p = true then
          Caught c.source (Sees w'.host p) p before (w'.store.rowAt repo p)
        else w'.store.rowAt repo p = before := by
  obtain ⟨run, w₁, hopen, hrow, href, hrev, hforce, hmarker, report, hfound⟩ :=
    openPartial_found row holder changes w hserves hnodup hv
  have hmoves : Moves c Valid (fun _ => True) w _ :=
    openPartial_moves hserves.keeps row holder changes w
  rw [hopen] at h hmoves
  obtain ⟨hchanges, -⟩ := hmoves hv
  have hwf₁ := hchanges.wellFormed hwf
  have hnames₁ := hchanges.names hnames
  have hbefore (p : String) : w.store.rowAt repo p = w.store.file? row.id p :=
    Store.rowAt_eq_file? hwf hnames p
  have hmiddle (p : String) : w₁.store.rowAt repo p = w₁.store.file? row.id p :=
    Store.rowAt_eq_file? hwf₁ hnames₁ p
  have hdistinct : (run.jobs.map FileJob.path).Nodup := by
    have := hfound.distinct
    rw [List.map_reverse] at this
    exact (List.reverse_perm _).nodup_iff.mp this
  obtain ⟨results, hresult, -, hvalid, hended, hothers, hrecorded⟩ := completeIn_indexing
    (hrow ▸ href ▸ hserves.answers) hdistinct hwf₁ (hrow ▸ hnames₁) hfound.valid h
  -- What a lookup saw counts as seen when the files are done.
  have hstays (p : String) (f : Option Remote.File) : Sees w₁.host p f → Sees w'.host p f := by
    have hmoves : Moves c (fun h => Sees h p f) (fun _ => True) w₁ w' :=
      completeIn_moves (hserves.stays p f) (fun _ _ _ _ _ _ => trivial) h
    exact fun hsees => (hmoves hsees).2
  have hmem (p : String) : p ∈ changes.changed.filter Language.isIndexable ↔
      p ∈ changes.changed ∧ Language.isIndexable p = true := List.mem_filter
  have hjob (p : String) : p ∈ run.jobs.map FileJob.path →
      p ∈ changes.changed.filter Language.isIndexable := by
    intro hp
    obtain ⟨job, hjob, rfl⟩ := List.mem_map.mp hp
    exact hfound.among job (List.mem_reverse.mpr hjob)
  refine ⟨⟨_, hresult⟩, hvalid, by rw [hrecorded, hrev, hmarker], fun p => ?_⟩
  simp only
  rw [hbefore]
  split
  · next hp =>
    rcases hfound.looked p ((hmem p).mpr hp) with ⟨file, hsees, hj, hfile⟩ | ⟨hsees, hj, hnone⟩
    · obtain ⟨r, -, hend⟩ := hended _ (List.mem_reverse.mp hj)
      rw [hmiddle, hfile] at hend
      refine hend.caught (fun f hf => ?_) hfree (hgenuine _ p) (hstays p _ hsees) rfl
      split at hf
      · cases hf
      · exact hrows p f (hbefore p ▸ hf)
    · have hj' : p ∉ run.jobs.map FileJob.path := by simpa using hj
      rw [hothers p hj', hmiddle, hnone]
      exact .gone (hstays p _ hsees)
  · next hp =>
    -- Neither looked up nor indexed, so only the deletions can have touched it.
    have hp' := mt (hmem p).mp hp
    rw [hothers p fun h => hp' (hjob p h), hmiddle]
    exact hfound.others p hp'

end Partial

end ContextIndex.Sync
