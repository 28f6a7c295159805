import ContextIndex.Proofs.Remote.InMemory
import ContextIndex.Proofs.Sync.Completion

/-!
# Full syncs

A full sync indexes the files of the tree at the head.  What becomes of each depends on its own row
and on what the host answers for it (`completeIn_covered`), so neither the order in which the
workers take turns nor their number matters (`fullSync_covers_tree`).  It deletes nothing: a row
whose path has gone from the tree stays (`fullSync_keeps_stale`).
-/

namespace ContextIndex.Sync

open ContextIndex.Remote (Snapshot Memory widgets memorySetup worldOf)

/-! ## A host in memory -/

theorem shows_worldOf (r : Remote.MemoryRepo) (store : Store) :
    memorySetup.service.Shows widgets memorySetup.options.branch
      (fun h => h.repos = (worldOf r store).host.repos)
      ⟨r.head, Memory.treeOf r, Memory.fetchFrom r⟩ :=
  Memory.service_shows _ (Memory.repo?_single widgets r) _

/-- A repository with three files, one of which cannot be fetched. -/
def partlyFailing : Remote.MemoryRepo :=
  { head := "c1"
    files := [("a.py", "def f():\n    return 1\n"), ("b.py", "B = 2\n"),
      ("lib/c.py", "def g():\n    return 3\n")]
    failing := ["b.py"] }

/-- A repository with two files. -/
def twoFiles : Remote.MemoryRepo :=
  { head := "c1", files := [("a.py", "def f():\n    return 1\n"), ("b.py", "B = 2\n")] }

/-- The same repository later, without the first of them. -/
def shrunk : Remote.MemoryRepo :=
  { head := "c2", files := [("b.py", "B = 2\n")] }

/-- A store with both files. -/
def outdated : Store :=
  (fullSync memorySetup widgets false (worldOf twoFiles {})).2.store

section Full

variable {σ : Type} {c : Setup σ} {repo : RepoId} {force : Bool} {order : List Nat}
  {w w' : World σ} {result : Except Error Outcome}

/-- A full sync is over before its files, or it completes a run. -/
theorem fullSyncIn_cases (h : fullSyncIn c order repo force w = some (result, w')) :
    startFull c repo force w = (.over result, w') ∨
      ∃ run w₁, startFull c repo force w = (.indexing run, w₁) ∧
        completeIn c order (.indexing run) w₁ = some (result, w') := by
  unfold fullSyncIn at h
  cases hstart : startFull c repo force w with
  | mk phase w₁ =>
    rw [hstart] at h
    cases phase with
    | «over» r =>
      cases h
      exact .inl rfl
    | indexing run => exact .inr ⟨run, w₁, rfl, h⟩

/-- What a full sync that completes has done to a repository whose host shows a snapshot. -/
structure Covered (c : Setup σ) (repo : RepoId) (force : Bool) (x : Snapshot) (w : World σ)
    (r : Report) (w' : World σ) (results : List FileResult) : Prop where
  report : r = { ({} : Report).recordAll results with revision := some x.head }
  paths : (results.map Prod.fst).Perm x.paths
  ended : ∀ e ∈ Remote.indexableEntries x.tree, ∃ q, (e.path, q) ∈ results ∧
    Ended c.source force (· = x.fetch e.path) ⟨e.path, some e.sha⟩ (w.store.rowAt repo e.path) q
      (w'.store.rowAt repo e.path)
  others : ∀ p, p ∉ x.paths → w'.store.rowAt repo p = w.store.rowAt repo p
  marker : w'.store.marker repo = some x.head

variable {Valid : σ → Prop} {x : Snapshot}

/-- A run that has started against a snapshot, in whatever order its files are done, completes and
covers the tree. -/
theorem completeIn_covered {run : Run} {w₁ : World σ}
    (hshow : c.service.Shows repo c.options.branch Valid x) (hdistinct : x.paths.Nodup)
    (hwf : w.store.WellFormed) (hv : Valid w.host)
    (hstart : startFull c repo force w = (.indexing run, w₁))
    (h : completeIn c order (.indexing run) w₁ = some (result, w')) :
    ∃ r results, result = .ok (.completed r) ∧ Covered c repo force x w r w' results := by
  obtain ⟨head, tree, host, host', hnames, hname, hhost, hhead, htree, href, hrev, hforce, hrep,
    hjobs⟩ := startFull_indexing hstart
  have hvalid := hhost Valid hshow.keeps hv
  have hhead' := hshow.head hname hvalid
  have hvalid' := hshow.keeps.head run.repo.repoId c.options.branch hvalid
  rw [hhead] at hhead' hvalid'
  cases hhead'
  have htree' := hshow.tree hname hvalid'
  have hvalid₁ := hshow.keeps.tree run.repo.repoId x.head hvalid'
  rw [htree] at htree' hvalid₁
  cases htree'
  have hmoves : Moves c Valid (fun _ => True) w _ := startFull_moves hshow.keeps repo force w
  have hquiet := startFull_quiet c repo force w
  rw [hstart] at hmoves hquiet
  have hwf₁ := (hmoves hv).1.wellFormed hwf
  have hpaths : run.jobs.map FileJob.path = x.paths := by
    rw [hjobs, List.map_map]
    rfl
  obtain ⟨results, hresult, hperm, -, hended, hothers, hmarker⟩ :=
    completeIn_indexing (href ▸ hshow.answers hname) (hpaths ▸ hdistinct) hwf₁
      hnames hvalid₁ h
  refine ⟨_, results, hresult, ?_, hpaths ▸ hperm, fun e he => ?_, fun p hp => ?_, ?_⟩
  · rw [hrep, hrev]
  · have hjob : (⟨e.path, some e.sha⟩ : FileJob) ∈ run.jobs := by
      rw [hjobs]
      exact List.mem_map_of_mem he
    have := hended _ hjob
    rw [hquiet.rows, hforce] at this
    exact this
  · rw [hothers p (hpaths ▸ hp)]
    exact hquiet.rows p
  · rw [hmarker, hrev]
    rfl

/-! ## Every order covers the tree -/

/-- The results of two runs over the same rows and the same snapshot are the same. -/
theorem Covered.results_perm {c' : Setup σ} {w'' : World σ} {r r' : Report}
    {results results' : List FileResult} (hsource : c'.source = c.source)
    (hdistinct : x.paths.Nodup) (h : Covered c repo force x w r w' results)
    (h' : Covered c' repo force x w r' w'' results') : results.Perm results' := by
  have hnodup := h.paths.nodup_iff.mpr hdistinct
  have hnodup' := h'.paths.nodup_iff.mpr hdistinct
  have hboth (p : String) (hp : p ∈ x.paths) :
      ∃ q, (p, q) ∈ results ∧ (p, q) ∈ results' := by
    obtain ⟨e, he, rfl⟩ := List.mem_map.mp hp
    obtain ⟨q, hq, hended⟩ := h.ended e he
    obtain ⟨q', hq', hended'⟩ := h'.ended e he
    rw [hsource] at hended'
    obtain ⟨rfl, -⟩ := hended.unique hended'
    exact ⟨q, hq, hq'⟩
  refine (List.perm_ext_iff_of_nodup hnodup.of_map hnodup'.of_map).mpr fun a =>
    ⟨fun ha => ?_, fun ha => ?_⟩
  · obtain ⟨q, hq, hq'⟩ := hboth a.1 (h.paths.mem_iff.mp (List.mem_map_of_mem ha))
    exact List.inj_on_of_nodup_map hnodup hq ha rfl ▸ hq'
  · obtain ⟨q, hq, hq'⟩ := hboth a.1 (h'.paths.mem_iff.mp (List.mem_map_of_mem ha))
    exact List.inj_on_of_nodup_map hnodup' hq' ha rfl ▸ hq

/-- The same setup with another number of permits. -/
def Setup.withConcurrency (c : Setup σ) (n : Nat) : Setup σ :=
  { c with options := { c.options with concurrency := n } }

/-- Whatever the order of turns and the number of permits, a full sync that completes leaves every
file of the tree with the row of its content, except for those whose fetch fails; these and all
other rows stay as they were, and the marker is the head.  Every other order and number of permits
comes to the same rows, counters and errors. -/
theorem fullSync_covers_tree {Genuine : Remote.File → Prop} {r : Report}
    (hstore : Produced c.source Genuine w.store) (hfree : CollisionFree Genuine)
    (hshow : c.service.Shows repo c.options.branch Valid x) (hcoherent : x.Coherent)
    (hgenuine : ∀ p file, x.fetch p = .ok file → Genuine file) (hv : Valid w.host)
    (h : fullSyncIn c order repo force w = some (.ok (.completed r), w')) :
    (∀ e ∈ Remote.indexableEntries x.tree, ∀ file, x.fetch e.path = .ok file →
      (w'.store.rowAt repo e.path).map FileRow.core = some (c.source.rowOf e.path file)) ∧
    (∀ p, ((∃ e, x.fetch p = .error e) ∨ p ∉ x.paths) →
      w'.store.rowAt repo p = w.store.rowAt repo p) ∧
    w'.store.marker repo = some x.head ∧
    ∀ (n : Nat) (order' : List Nat) (result' : Except Error Outcome) (w'' : World σ),
      fullSyncIn (c.withConcurrency n) order' repo force w = some (result', w'') →
      ∃ r', result' = .ok (.completed r') ∧ r.Agrees r' ∧
        ∀ p, (w''.store.rowAt repo p).map FileRow.core =
          (w'.store.rowAt repo p).map FileRow.core := by
  obtain hover | ⟨run, w₁, hstart, hcomplete⟩ := fullSyncIn_cases h
  · cases (startFull_over hover).1
  obtain ⟨_, results, hr, hcovered⟩ :=
    completeIn_covered hshow hcoherent.distinct hstore.wellFormed hv hstart hcomplete
  cases hr
  refine ⟨fun e he file hfile => ?_, fun p hp => ?_, hcovered.marker, ?_⟩
  · obtain ⟨q, -, hended⟩ := hcovered.ended e he
    rw [hfile] at hended
    refine hended.core_eq (hstore.derived.traced repo e.path) hfree (hgenuine _ _ hfile) ?_
    intro id hid
    cases hid
    exact (hcoherent.sha e he file hfile).symm
  · by_cases hmem : p ∈ x.paths
    · obtain ⟨e, he, rfl⟩ := List.mem_map.mp hmem
      obtain ⟨q, -, hended⟩ := hcovered.ended e he
      obtain ⟨err, herr⟩ := hp.resolve_right (not_not_intro hmem)
      rw [herr] at hended
      exact hended.eq_of_error
    · exact hcovered.others p hmem
  · intro n order' result' w'' h'
    -- The number of permits matters to the turns only, so the other sync starts the same run.
    have hstart' : startFull (c.withConcurrency n) repo force w = (.indexing run, w₁) := hstart
    obtain hover | ⟨run', w₁', hstart'', hcomplete'⟩ := fullSyncIn_cases h'
    · rw [hstart'] at hover
      cases hover
    rw [hstart'] at hstart''
    cases hstart''
    obtain ⟨r', results', hr', hcovered'⟩ := completeIn_covered (c := c.withConcurrency n) hshow
      hcoherent.distinct hstore.wellFormed hv hstart' hcomplete'
    have hsource : (c.withConcurrency n).source = c.source := rfl
    have hperm := hcovered.results_perm hsource hcoherent.distinct hcovered'
    refine ⟨r', hr', ?_, fun p => ?_⟩
    · rw [hcovered.report, hcovered'.report]
      exact (Report.recordAll_agrees hperm (.refl {})).withRevision _
    · by_cases hmem : p ∈ x.paths
      · obtain ⟨e, he, rfl⟩ := List.mem_map.mp hmem
        obtain ⟨q, -, hended⟩ := hcovered.ended e he
        obtain ⟨q', -, hended'⟩ := hcovered'.ended e he
        exact (hended'.unique hended).2
      · rw [hcovered.others p hmem, hcovered'.others p hmem]

/-- A sync that is seen to complete, with its report and the world after it. -/
theorem exists_completed {P : World σ → Bool} {y : Option (Except Error Outcome × World σ)}
    (h : (y.any fun x => Outcome.isReport x.1 && P x.2) = true) :
    ∃ r w', y = some (.ok (.completed r), w') ∧ P w' = true := by
  obtain ⟨⟨result, w'⟩, rfl, hreport⟩ := (Option.any_eq_true _ _).mp h
  rw [Bool.and_eq_true] at hreport
  cases result with
  | error e => cases hreport.1
  | ok outcome =>
    cases outcome with
    | completed r => exact ⟨r, w', rfl, hreport.2⟩
    | upToDate => cases hreport.1
    | alreadyRunning p => cases hreport.1

theorem fullSync_covers_tree_partlyFailing :
    ∃ r w', fullSyncIn memorySetup [1, 0, 2, 1, 1, 0, 1, 0] widgets false
        (worldOf partlyFailing {}) = some (.ok (.completed r), w') ∧
      (w'.store.rowAt widgets "a.py").map FileRow.core =
        some (memorySetup.source.rowOf "a.py"
          ⟨"def f():\n    return 1\n", Memory.contentIdOf "def f():\n    return 1\n"⟩) ∧
      w'.store.rowAt widgets "b.py" = none ∧ w'.store.marker widgets = some "c1" := by
  obtain ⟨r, w', h, -⟩ := exists_completed (P := fun _ => true) (y := fullSyncIn memorySetup
    [1, 0, 2, 1, 1, 0, 1, 0] widgets false (worldOf partlyFailing {})) (by decide +kernel)
  have hempty : Produced memorySetup.source
      (Memory.FileOf (partlyFailing.files.map Prod.snd)) (worldOf partlyFailing {}).store := .refl
  obtain ⟨hrows, hothers, hmarker, -⟩ := fullSync_covers_tree hempty
    (Memory.collisionFree_fileOf (by decide +kernel)) (shows_worldOf partlyFailing {})
    (Memory.coherent (by decide))
    (fun _ _ hfile => Memory.fileOf_fileTree (Memory.fileTree_of_fetchFrom hfile)) rfl h
  have hentry : ⟨"a.py", Memory.contentIdOf "def f():\n    return 1\n", .blob⟩ ∈
      Remote.indexableEntries (Memory.treeOf partlyFailing) := by
    rw [Memory.indexableEntries_treeOf]
    exact List.mem_map.mpr ⟨("a.py", "def f():\n    return 1\n"), by decide +kernel, rfl⟩
  exact ⟨r, w', h, hrows _ hentry _ rfl, hothers "b.py" (.inl ⟨_, rfl⟩), hmarker⟩

/-! ## Nothing is deleted -/

/-- A full sync that completes leaves every row outside the tree as it was.  So after it all rows
belong to the tree exactly if they did before. -/
theorem fullSync_keeps_stale {r : Report} (hwf : w.store.WellFormed)
    (hshow : c.service.Shows repo c.options.branch Valid x) (hdistinct : x.paths.Nodup)
    (hv : Valid w.host) (h : fullSyncIn c order repo force w = some (.ok (.completed r), w')) :
    (∀ p, p ∉ x.paths → w'.store.rowAt repo p = w.store.rowAt repo p) ∧
      ((∀ p, w'.store.rowAt repo p ≠ none → p ∈ x.paths) ↔
        ∀ p, w.store.rowAt repo p ≠ none → p ∈ x.paths) := by
  obtain hover | ⟨run, w₁, hstart, hcomplete⟩ := fullSyncIn_cases h
  · cases (startFull_over hover).1
  obtain ⟨_, results, hr, hcovered⟩ :=
    completeIn_covered hshow hdistinct hwf hv hstart hcomplete
  refine ⟨hcovered.others, fun hafter p hp => ?_, fun hbefore p hp => ?_⟩
  · by_contra hmem
    exact hmem (hafter p (hcovered.others p hmem ▸ hp))
  · by_contra hmem
    exact hmem (hbefore p (hcovered.others p hmem ▸ hp))

theorem fullSync_keeps_stale_outdated :
    ∃ r w', fullSyncIn memorySetup [0] widgets false (worldOf shrunk outdated) =
        some (.ok (.completed r), w') ∧
      w'.store.rowAt widgets "a.py" = outdated.rowAt widgets "a.py" := by
  obtain ⟨r, w', h, -⟩ := exists_completed (P := fun _ => true)
    (y := fullSyncIn memorySetup [0] widgets false (worldOf shrunk outdated)) (by decide +kernel)
  have hwf : (worldOf shrunk outdated).store.WellFormed :=
    ⟨by decide +kernel, by decide +kernel, by decide +kernel, by decide +kernel⟩
  have hcoherent := Memory.coherent (r := shrunk) (by decide)
  obtain ⟨hothers, -⟩ := fullSync_keeps_stale hwf (shows_worldOf shrunk outdated)
    hcoherent.distinct rfl h
  exact ⟨r, w', h, hothers "a.py" (by decide +kernel)⟩

/-- A full sync that completes can leave a file that its tree does not have, with its symbol. -/
theorem fullSync_leaves_removed_file :
    ∃ r w', fullSync memorySetup widgets false (worldOf shrunk outdated) =
        (.ok (.completed r), w') ∧
      "a.py" ∉ (Memory.treeOf shrunk).map Remote.TreeEntry.path ∧
      ∃ f, w'.store.rowAt widgets "a.py" = some f ∧ f.symbols ≠ [] := by
  obtain ⟨r, w', h, hrow⟩ := exists_completed
    (P := fun w => (w.store.rowAt widgets "a.py").any fun f => !f.symbols.isEmpty)
    (y := some (fullSync memorySetup widgets false (worldOf shrunk outdated))) (by decide +kernel)
  obtain ⟨f, hf, hsymbols⟩ := (Option.any_eq_true _ _).mp hrow
  exact ⟨r, w', Option.some.inj h, by decide, f, hf, by simpa using hsymbols⟩

end Full

end ContextIndex.Sync
