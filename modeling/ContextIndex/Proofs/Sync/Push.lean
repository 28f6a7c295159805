import ContextIndex.Proofs.Remote.InMemory
import ContextIndex.Proofs.Sync.Partial

/-!
# Pushes

If the rows of a repository are the index of a tree, then a partial sync of the change set of a push
makes them the index of the tree that the commits of the push lead to
(`partialSync_reindexes`).  So a sequence of pushes does the same as indexing the last tree anew.
-/

namespace ContextIndex.Sync

open ContextIndex.Remote (Tree Leads Between Memory MemoryRepo widgets memorySetup worldOf)

/-! ## Path sets -/

theorem mem_insertPath {p q : String} {ps : List String} :
    q ∈ insertPath p ps ↔ q = p ∨ q ∈ ps := by
  induction ps with
  | nil => simp [insertPath]
  | cons r ps ih =>
    unfold insertPath
    split
    · exact List.mem_cons
    · split
      · next heq => simp [heq]
      · rw [List.mem_cons, ih, List.mem_cons, or_left_comm]

/-- Paths in ascending order, so that none is there twice. -/
def Ascending (ps : List String) : Prop :=
  ps.Pairwise (· < ·)

theorem Ascending.insertPath {p : String} {ps : List String} (h : Ascending ps) :
    Ascending (insertPath p ps) := by
  induction ps with
  | nil => exact List.pairwise_singleton _ _
  | cons r ps ih =>
    obtain ⟨hr, hps⟩ := List.pairwise_cons.mp h
    unfold Sync.insertPath
    split
    · next hlt =>
      refine List.pairwise_cons.mpr ⟨fun q hq => ?_, h⟩
      cases List.mem_cons.mp hq with
      | inl heq => exact heq ▸ hlt
      | inr hmem => exact String.lt_trans hlt (hr q hmem)
    · next hlt =>
      split
      · exact h
      · next hne =>
        refine List.pairwise_cons.mpr ⟨fun q hq => ?_, ih hps⟩
        rcases mem_insertPath.mp hq with rfl | hmem
        · exact Decidable.not_not.mp fun hge =>
            hne (String.le_antisymm (String.not_lt.mp hge) (String.not_lt.mp hlt))
        · exact hr q hmem

theorem pathSet_spec (ps : List String) :
    Ascending (pathSet ps) ∧ ∀ q, q ∈ pathSet ps ↔ q ∈ ps := by
  have hfold (ps : List String) : ∀ set, Ascending set →
      Ascending (ps.foldl (fun set p => insertPath p set) set) ∧
        ∀ q, q ∈ ps.foldl (fun set p => insertPath p set) set ↔ q ∈ set ∨ q ∈ ps := by
    induction ps with
    | nil => exact fun set h => ⟨h, by simp⟩
    | cons p ps ih =>
      intro set h
      obtain ⟨hasc, hmem⟩ := ih (insertPath p set) h.insertPath
      refine ⟨hasc, fun q => (hmem q).trans ?_⟩
      rw [mem_insertPath, List.mem_cons, or_assoc, or_left_comm]
  obtain ⟨hasc, hmem⟩ := hfold ps [] .nil
  exact ⟨hasc, fun q => (hmem q).trans (by simp)⟩

theorem mem_pathSet {q : String} {ps : List String} : q ∈ pathSet ps ↔ q ∈ ps :=
  (pathSet_spec ps).2 q

theorem nodup_pathSet (ps : List String) : (pathSet ps).Nodup := by
  refine List.Pairwise.imp ?_ (pathSet_spec ps).1
  intro p q hlt heq
  subst heq
  exact String.lt_irrefl p hlt

/-! ## Indexes of trees -/

/-- The row of a path in the index of a tree. -/
def SymbolSource.indexOf (y : SymbolSource) (T : Tree) (path : String) : Option FileRow :=
  if Language.isIndexable path then (T path).map (y.rowOf path) else none

/-- The rows of a repository are the index of a tree: one row for each file to index, which is the
row of the file, and no other row. -/
structure IsIndex (y : SymbolSource) (T : Tree) (s : Store) (repo : RepoId) : Prop where
  rows : ∀ p, (s.rowAt repo p).map FileRow.core = y.indexOf T p
  once : ∀ e, s.entryNamed? repo.fullName = some e → (e.files.map FileRow.path).Nodup

/-- A row of an index is made from a file of the tree. -/
theorem IsIndex.traced {y : SymbolSource} {T : Tree} {s : Store} {repo : RepoId}
    {Genuine : Remote.File → Prop} (h : IsIndex y T s repo)
    (hgenuine : ∀ p file, T p = some file → Genuine file) (path : String) :
    ∀ f ∈ s.rowAt repo path, Traced y Genuine path f := by
  intro f hf _
  have hrow := h.rows path
  rw [hf, Option.map_some, SymbolSource.indexOf] at hrow
  split at hrow
  · obtain ⟨file, hfile, hcore⟩ := Option.map_eq_some_iff.mp hrow.symm
    exact ⟨file, hgenuine path file hfile, hcore.symm⟩
  · cases hrow

/-! ## Taking a lease that is free -/

/-- A lease can be taken: its time is not too long, and there is none or one that gives way. -/
structure LeaseFree {σ : Type} (w : World σ) (key : String) (leaseTime : Nat) : Prop where
  time : leaseTime ≤ maxLeaseTime
  givesWay : ∀ l, w.store.lease? key = some l → l.givesWay w.now = true

/-- A lease that is free is taken for a new holder. -/
theorem takeLease_free {σ : Type} {w : World σ} {key : String} {leaseTime : Nat}
    (h : LeaseFree w key leaseTime) (label : String) :
    ∃ holder w', takeLease w key label leaseTime = (.ok (some holder), w') := by
  unfold takeLease Store.acquireLease
  simp only
  rw [if_neg (Nat.not_lt.mpr h.time)]
  cases hl : w.store.lease? key with
  | none => exact ⟨_, _, rfl⟩
  | some l =>
    simp only [h.givesWay l hl, if_true]
    exact ⟨_, _, rfl⟩

/-- A lease that is free is taken at the first attempt. -/
theorem awaitLease_free {σ : Type} {w : World σ} {key : String} {leaseTime : Nat}
    (h : LeaseFree w key leaseTime) (label : String) (wait : Wait) :
    ∃ holder w', awaitLease w key label leaseTime wait = (.ok (some holder), w') := by
  obtain ⟨holder, w', htake⟩ := takeLease_free h label
  refine ⟨holder, w', ?_⟩
  rw [awaitLease, htake]

/-! ## Reindexing -/

section Push

variable {σ : Type} {c : Setup σ} {repo : RepoId} {row : RepoRow} {w : World σ}

/-- The row of a path after a push is the one of the new tree, if the row before it was the one of
the old tree. -/
theorem core_of_push {y : SymbolSource} {e : PushEvent} {T₀ T₁ : Tree}
    (hleads : Leads e.commits T₀ T₁) {p : String} {before after : Option FileRow}
    (hbefore : before.map FileRow.core = y.indexOf T₀ p)
    (hafter : if p ∈ e.changeSet.changed ∧ Language.isIndexable p = true then
        Caught y (· = T₁ p) p (if p ∈ e.changeSet.deleted then none else before) after
      else after = if p ∈ e.changeSet.deleted then none else before) :
    after.map FileRow.core = y.indexOf T₁ p := by
  have hchanged : p ∈ e.changeSet.changed ↔
      p ∈ e.commits.flatMap fun k => k.added ++ k.modified := mem_pathSet
  have hdeleted : p ∈ e.changeSet.deleted ↔ p ∈ e.commits.flatMap fun k => k.removed := mem_pathSet
  unfold SymbolSource.indexOf at hbefore ⊢
  by_cases hindexable : Language.isIndexable p = true
  · rw [if_pos hindexable] at hbefore ⊢
    by_cases hp : p ∈ e.changeSet.changed
    · -- Whatever the commits did to the path, it is looked up in the tree they lead to.
      rw [if_pos ⟨hp, hindexable⟩] at hafter
      cases hafter with
      | row file _ hsees hcore => rw [hcore, ← hsees, Option.map_some]
      | gone hsees => rw [← hsees]; rfl
      | lost file hsees hnone => cases hsees.trans hnone.symm
    · rw [if_neg fun h => hp h.1] at hafter
      rw [hafter]
      split
      · next hdel =>
        rw [hleads.none_of_deleted (mt hchanged.mpr hp) (hdeleted.mp hdel)]
        rfl
      · next hdel =>
        rw [hleads.eq_of_untouched (mt hchanged.mpr hp) (mt hdeleted.mpr hdel)]
        exact hbefore
  · rw [if_neg hindexable] at hbefore ⊢
    rw [if_neg fun h => hindexable h.2] at hafter
    rw [hafter]
    split
    · rfl
    · exact hbefore

/-- After a push, a partial sync of its change set makes the index of the tree before it the index
of the tree that its commits lead to, in whatever order its files are done, and there is such an
order.  The marker is the commit that the push led to, if it names one. -/
theorem partialSync_reindexes {e : PushEvent} {T₀ T₁ : Tree} {Valid : σ → Prop}
    (hrow : storedRepo repo w = .ok row) (hwf : w.store.WellFormed)
    (hindex : IsIndex c.source T₀ w.store repo) (hleads : Leads e.commits T₀ T₁)
    (hserves : ∀ id : RepoId, id.fullName = repo.fullName →
      c.service.Serves id (e.changeSet.revision.getD c.options.branch) Valid fun _ p f => f = T₁ p)
    (hfree : CollisionFree fun file => ∃ p, T₀ p = some file ∨ T₁ p = some file)
    (hlease : LeaseFree w repo.fullName c.options.leaseTime) (hv : Valid w.host) :
    (∃ order, partialSyncIn c order repo e.changeSet w =
      some (partialSync c repo e.changeSet w)) ∧
    ∀ (order : List Nat) (result : Except Error Outcome) (w' : World σ),
      partialSyncIn c order repo e.changeSet w = some (result, w') →
      (∃ r, result = .ok (.completed r)) ∧ IsIndex c.source T₁ w'.store repo ∧
        ∀ sha, e.after = some sha → PushEvent.isNullSha sha = false →
          w'.store.marker repo = some sha := by
  refine ⟨partialSync_isOrder c repo e.changeSet w, fun order result w' h => ?_⟩
  obtain ⟨entry, hentry, rfl⟩ := entry_of_getRepo (getRepo_of_storedRepo hrow)
  have hname : entry.row.fullName = repo.fullName := fullName_of_entryNamed? hentry
  obtain ⟨holder, w₁, hawait⟩ := awaitLease_free (hname ▸ hlease) c.label
    (.start w.clock c.options.leaseWait)
  have hwait : Waited c (fun _ => True) w w₁ := awaitLease_waited hawait
  obtain ⟨hchanges, hv₁⟩ := hwait.moves Valid hv
  have hrows (p : String) : w₁.store.rowAt repo p = w.store.rowAt repo p :=
    Store.rowAt_of_repos hwait.repos repo p
  have hnames : w.store.Names repo entry.row.id := ⟨entry, hentry, rfl⟩
  unfold partialSyncIn at h
  simp only [hrow, hawait] at h
  have hmovesAll : Moves c Valid (fun _ => True) w₁ w' :=
    (openPartial_moves (hserves _ hname).keeps _ _ _ _).trans
      (completeIn_moves (hserves _ hname).keeps (fun _ _ _ _ _ _ => trivial) h)
  obtain ⟨hreport, -, hmarker, hpaths⟩ := completeIn_partial (hserves _ hname)
    (fun _ p file hsees => ⟨p, .inr hsees.symm⟩) hfree
    (fun p => hrows p ▸ hindex.traced (fun q file hfile => ⟨q, .inl hfile⟩) p)
    (hchanges.wellFormed hwf) (hnames.of_repos hwait.repos) (nodup_pathSet _) hv₁ h
  refine ⟨hreport, ⟨fun p => ?_, fun e' he' => ?_⟩, fun sha hsha hnull => ?_⟩
  · refine core_of_push hleads (hindex.rows p) ?_
    have := hpaths p
    simp only [hrows] at this
    exact this
  · have hwf' := (hmovesAll hv₁).1.wellFormed (hchanges.wellFormed hwf)
    exact hwf'.paths e' (List.mem_of_find?_eq_some he')
  · rw [hmarker]
    simp [PushEvent.changeSet, hsha, hnull]

end Push

/-! ## A host in memory -/

/-- A store with the index of a repository in memory. -/
def indexedStore (r : MemoryRepo) : Store :=
  { repos := [⟨⟨1, widgets.owner, widgets.name, none, none, some r.head, none⟩,
      (r.files.filter fun f => Language.isIndexable f.1).map fun f =>
        memorySetup.source.rowOf f.1 ⟨f.2, Memory.contentIdOf f.2⟩⟩]
    nextRepo := 2 }

/-- Among the rows of files, the one at a path is the row of the file there. -/
theorem find?_rows (y : SymbolSource) (fs : List (String × String)) (p : String) :
    ((((fs.filter fun f => Language.isIndexable f.1).map fun f =>
      y.rowOf f.1 ⟨f.2, Memory.contentIdOf f.2⟩).find? fun f => f.path == p).map FileRow.core) =
      if Language.isIndexable p then
        ((fs.lookup p).map fun s => (⟨s, Memory.contentIdOf s⟩ : Remote.File)).map (y.rowOf p)
      else none := by
  induction fs with
  | nil => simp
  | cons f fs ih =>
    obtain ⟨q, s⟩ := f
    by_cases hqp : q = p
    · subst hqp
      by_cases hq : Language.isIndexable q = true
      · have hpath : ((y.rowOf q ⟨s, Memory.contentIdOf s⟩).path == q) = true := beq_self_eq_true q
        simp only [List.filter_cons, hq, if_true, List.map_cons, List.find?_cons, hpath,
          List.lookup_cons, beq_self_eq_true, Option.map_some]
        rfl
      · simp only [List.filter_cons, hq]
        simpa [hq] using ih
    · have hlookup : (p == q) = false := beq_eq_false_iff_ne.mpr (Ne.symm hqp)
      rw [List.lookup_cons, hlookup, ← ih]
      by_cases hq : Language.isIndexable q = true
      · have hpath : ((y.rowOf q ⟨s, Memory.contentIdOf s⟩).path == p) = false :=
          beq_eq_false_iff_ne.mpr hqp
        simp only [List.filter_cons, hq, if_true, List.map_cons, List.find?_cons, hpath]
      · simp only [List.filter_cons, hq]
        rfl

theorem wellFormed_indexedStore {r : MemoryRepo} (hnodup : (r.files.map Prod.fst).Nodup) :
    (indexedStore r).WellFormed := by
  have hone {e : RepoEntry} (he : e ∈ (indexedStore r).repos) : e = ⟨_, _⟩ :=
    List.mem_singleton.mp he
  refine ⟨by simp [indexedStore], by simp [indexedStore], fun e he => ?_, fun e he => ?_⟩
  · rw [hone he]
    exact Nat.lt_succ_self 1
  · rw [hone he, List.map_map]
    exact hnodup.sublist (List.filter_sublist.map _)

theorem isIndex_indexedStore {r : MemoryRepo} (hnodup : (r.files.map Prod.fst).Nodup) :
    IsIndex memorySetup.source (Memory.fileTree r) (indexedStore r) widgets := by
  have hentry : (indexedStore r).entryNamed? widgets.fullName = some ⟨_, _⟩ := rfl
  refine ⟨fun p => ?_, fun e he => ?_⟩
  · unfold Store.rowAt
    rw [hentry, Option.bind_some]
    exact find?_rows memorySetup.source r.files p
  · exact (wellFormed_indexedStore hnodup).paths e (List.mem_of_find?_eq_some he)

/-- A repository before a push. -/
def beforePush : MemoryRepo :=
  { head := "c1", files := [("a.py", "A = 1\n"), ("b.py", "B = 2\n")] }

/-- The repository after the first commit of the push. -/
def withinPush : MemoryRepo :=
  { head := "c2", files := [("a.py", "B = 2\n")] }

/-- The repository after the push. -/
def afterPush : MemoryRepo :=
  { head := "c3", files := [("a.py", "B = 2\n"), ("b.py", "A = 1\n"), ("c.py", "A = 1\n")] }

/-- A push whose first commit removes a file that the second one adds again. -/
def readdingPush : PushEvent :=
  { repository := "octo/widgets"
    after := some "c3"
    commits := [{ modified := ["a.py"], removed := ["b.py"] }, { added := ["b.py", "c.py"] }] }

/-- What a commit does to the files of a repository in memory can be checked file by file. -/
theorem between_fileTree {k : PushCommit} {r r' : MemoryRepo}
    (hadded : ∀ p ∈ k.added, p ∉ r.files.map Prod.fst ∧ p ∈ r'.files.map Prod.fst)
    (hremoved : ∀ p ∈ k.removed, p ∈ r.files.map Prod.fst ∧ p ∉ r'.files.map Prod.fst)
    (hkept : ∀ p ∈ k.modified, p ∈ r.files.map Prod.fst ∧ p ∈ r'.files.map Prod.fst)
    (hnew : ∀ p ∈ r'.files.map Prod.fst, p ∈ r.files.map Prod.fst ∨ p ∈ k.added)
    (hold : ∀ p ∈ r.files.map Prod.fst, p ∈ k.removed ∨
      p ∈ r'.files.map Prod.fst ∧ (p ∈ k.modified ∨ r.files.lookup p = r'.files.lookup p)) :
    Between k (Memory.fileTree r) (Memory.fileTree r') := by
  have hsome (r : MemoryRepo) (p : String) :
      Memory.fileTree r p ≠ none ↔ p ∈ r.files.map Prod.fst := by
    rw [ne_eq, Memory.fileTree_eq_none, Decidable.not_not]
  refine ⟨fun p => ?_, fun p => ?_, fun p hp => ?_, fun p hp hp' hne => ?_⟩
  · rw [hsome, Memory.fileTree_eq_none]
    exact ⟨hadded p, fun h => (hnew p h.2).resolve_left h.1⟩
  · rw [hsome, Memory.fileTree_eq_none]
    exact ⟨hremoved p, fun h => (hold p h.1).resolve_right fun h' => h.2 h'.1⟩
  · rw [hsome, hsome]
    exact hkept p hp
  · rw [hsome] at hp hp'
    obtain hrem | ⟨-, hmod | heq⟩ := hold p hp
    · exact absurd hp' (hremoved p hrem).2
    · exact hmod
    · unfold Memory.fileTree at hne
      exact absurd (heq ▸ rfl) hne

theorem leads_readdingPush :
    Leads readdingPush.commits (Memory.fileTree beforePush) (Memory.fileTree afterPush) := by
  have hfirst : Between { modified := ["a.py"], removed := ["b.py"] } (Memory.fileTree beforePush)
      (Memory.fileTree withinPush) :=
    between_fileTree (by decide) (by decide) (by decide) (by decide) (by decide)
  have hsecond : Between { added := ["b.py", "c.py"] } (Memory.fileTree withinPush)
      (Memory.fileTree afterPush) :=
    between_fileTree (by decide) (by decide) (by decide) (by decide) (by decide)
  exact .cons hfirst (.cons hsecond (.nil _))

theorem partialSync_reindexes_readdingPush :
    ∃ r w', partialSync memorySetup widgets readdingPush.changeSet
        (worldOf afterPush (indexedStore beforePush)) = (.ok (.completed r), w') ∧
      IsIndex memorySetup.source (Memory.fileTree afterPush) w'.store widgets ∧
      w'.store.marker widgets = some "c3" := by
  have hserves (id : RepoId) (hname : id.fullName = widgets.fullName) :
      memorySetup.service.Serves id (readdingPush.changeSet.revision.getD "main")
        (fun h => h.repos = (Memory.single widgets afterPush).repos)
        fun _ p f => f = Memory.fileTree afterPush p :=
    Memory.service_serves _ (Memory.repo?_single widgets afterPush) rfl _ hname
  have hfree : CollisionFree fun file => ∃ p,
      Memory.fileTree beforePush p = some file ∨ Memory.fileTree afterPush p = some file := by
    have hcontents : CollisionFree (Memory.FileOf ["A = 1\n", "B = 2\n"]) :=
      Memory.collisionFree_fileOf (by decide +kernel)
    refine hcontents.mono ?_
    rintro file ⟨p, hp | hp⟩
    · exact (Memory.fileOf_fileTree hp).mono (by decide)
    · exact (Memory.fileOf_fileTree hp).mono (by decide)
  have hrow : storedRepo widgets (worldOf afterPush (indexedStore beforePush)) = .ok _ := rfl
  have hwf : (worldOf afterPush (indexedStore beforePush)).store.WellFormed :=
    wellFormed_indexedStore (by decide)
  obtain ⟨⟨order, horder⟩, hall⟩ := partialSync_reindexes (c := memorySetup) hrow hwf
    (isIndex_indexedStore (by decide)) leads_readdingPush hserves hfree ⟨by decide, nofun⟩ rfl
  obtain ⟨⟨r, hr⟩, hindex, hmarker⟩ := hall order _ _ horder
  exact ⟨r, _, Prod.ext hr rfl, hindex, hmarker "c3" rfl (by decide)⟩

end ContextIndex.Sync
