import ContextIndex.Proofs.Remote.Timeline
import ContextIndex.Remote.Memory
import Mathlib.Data.List.Nodup

/-!
# What a host in memory shows

No question changes the repositories of a host in memory, so it shows each of them as a snapshot
(`Memory.service_shows`), serves its tree if no fetch fails (`Memory.service_serves`), and follows
the timeline of its versions if somebody exchanges them between the questions
(`Memory.service_follows`).
-/

namespace ContextIndex.Remote

open ContextIndex.Sync

/-- A host with one repository. -/
def Memory.single (repo : RepoId) (r : MemoryRepo) : Memory :=
  { repos := [(repo.fullName, r)] }

theorem Memory.repo?_single (repo : RepoId) (r : MemoryRepo) :
    (Memory.single repo r).repo? repo = some r := by
  simp [Memory.single, Memory.repo?]

/-! ## Questions -/

/-- No question changes the repositories. -/
theorem Memory.service_keeps (P : List (String × MemoryRepo) → Prop) :
    Memory.service.Keeps fun h => P h.repos :=
  ⟨fun _ h => h, fun _ _ h => h, fun _ _ h => h, fun _ _ _ h => h, fun _ _ _ h => h⟩

/-- A question about a repository is answered from it. -/
theorem Memory.ask_eq {α : Type} {h h₀ : Memory} {repo id : RepoId} {r : MemoryRepo}
    (f : MemoryRepo → Except RemoteError α) (hr : h₀.repo? repo = some r)
    (hname : id.fullName = repo.fullName) (hv : h.repos = h₀.repos) : h.ask id f = f r := by
  unfold Memory.repo? at hr
  unfold Memory.ask Memory.repo?
  rw [hname, hv, hr]

/-- A host in memory shows a repository for as long as its repositories are these. -/
theorem Memory.service_shows (h₀ : Memory) {repo : RepoId} {r : MemoryRepo}
    (hr : h₀.repo? repo = some r) (branch : String) :
    Memory.service.Shows repo branch (fun h => h.repos = h₀.repos)
      ⟨r.head, Memory.treeOf r, Memory.fetchFrom r⟩ where
  keeps := Memory.service_keeps fun repos => repos = h₀.repos
  head hname hv := Memory.ask_eq _ hr hname hv
  tree hname hv := Memory.ask_eq _ hr hname hv
  fetch _ hname hv := Memory.ask_eq _ hr hname hv

/-! ## Trees -/

/-- The tree of a repository in memory. -/
def Memory.fileTree (r : MemoryRepo) : Tree :=
  fun p => (r.files.lookup p).map fun s => ⟨s, Memory.contentIdOf s⟩

theorem Memory.fileTree_eq_none {r : MemoryRepo} {p : String} :
    Memory.fileTree r p = none ↔ p ∉ r.files.map Prod.fst := by
  unfold Memory.fileTree
  rw [Option.map_eq_none_iff, List.lookup_eq_none_iff]
  simp only [List.mem_map, not_exists, not_and, bne_iff_ne, ne_eq]
  exact ⟨fun h f hf heq => by simpa [heq] using h f hf, fun h f hf => by
    simpa [eq_comm] using h f hf⟩

/-- What a fetch gives out is the file of the tree. -/
theorem Memory.fileTree_of_fetchFrom {r : MemoryRepo} {p : String} {file : File}
    (h : Memory.fetchFrom r p = .ok file) : Memory.fileTree r p = some file := by
  unfold Memory.fetchFrom at h
  unfold Memory.fileTree
  split at h
  · cases h
  · cases hlookup : r.files.lookup p with
    | none =>
      rw [hlookup] at h
      cases h
    | some content =>
      rw [hlookup] at h
      cases h
      rfl

/-- If no fetch fails, each path is answered with the file of the tree. -/
theorem Memory.fetchFrom_cases {r : MemoryRepo} (hfailing : r.failing = []) (p : String) :
    (∃ file, Memory.fetchFrom r p = .ok file ∧ Memory.contentIdIn r p = .ok file.sha ∧
      Memory.fileTree r p = some file) ∨
    (Memory.fetchFrom r p = .error (.notFound p) ∧
      Memory.contentIdIn r p = .error (.notFound p) ∧ Memory.fileTree r p = none) := by
  unfold Memory.fetchFrom Memory.contentIdIn Memory.fileTree
  rw [hfailing]
  cases r.files.lookup p with
  | none => exact .inr ⟨rfl, rfl, rfl⟩
  | some content => exact .inl ⟨_, rfl, rfl, rfl⟩

/-- A host in memory none of whose fetches fails serves the tree of a repository. -/
theorem Memory.serves_of {repo id : RepoId} {reference : String}
    {P : List (String × MemoryRepo) → Prop}
    {S : List (String × MemoryRepo) → String → Option File → Prop}
    (hname : id.fullName = repo.fullName)
    (h : ∀ h₀ : Memory, P h₀.repos → ∃ r, h₀.repo? repo = some r ∧ r.failing = [] ∧
      ∀ p, S h₀.repos p (Memory.fileTree r p)) :
    Memory.service.Serves id reference (fun h => P h.repos) fun h => S h.repos where
  keeps := Memory.service_keeps P
  stays path file := Memory.service_keeps fun repos => S repos path file
  fetch {h₀} path hv := by
    obtain ⟨r, hr, hfailing, hsees⟩ := h h₀ hv
    have hpath := hsees path
    simp only [Memory.service, Memory.ask_eq _ hr hname rfl]
    obtain ⟨file, hfetch, -, htree⟩ | ⟨hfetch, -, htree⟩ := Memory.fetchFrom_cases hfailing path
    · rw [htree] at hpath
      rw [hfetch]
      exact hpath
    · rw [htree] at hpath
      rw [hfetch]
      exact hpath
  contentId {h₀} path hv := by
    obtain ⟨r, hr, hfailing, hsees⟩ := h h₀ hv
    have hpath := hsees path
    simp only [Memory.service, Memory.ask_eq _ hr hname rfl]
    obtain ⟨file, -, hid, htree⟩ | ⟨-, hid, htree⟩ := Memory.fetchFrom_cases hfailing path
    · rw [htree] at hpath
      rw [hid]
      exact ⟨file, rfl, hpath⟩
    · rw [htree] at hpath
      rw [hid]
      exact ⟨rfl, hpath⟩

/-- For as long as its repositories are these, the tree of each of them is served. -/
theorem Memory.service_serves (h₀ : Memory) {repo id : RepoId} {r : MemoryRepo}
    (hr : h₀.repo? repo = some r) (hfailing : r.failing = []) (reference : String)
    (hname : id.fullName = repo.fullName) :
    Memory.service.Serves id reference (fun h => h.repos = h₀.repos)
      fun _ p f => f = Memory.fileTree r p :=
  Memory.serves_of (P := fun repos => repos = h₀.repos)
    (S := fun _ p f => f = Memory.fileTree r p) hname fun _ hv =>
      ⟨r, by rw [← hr]; unfold Memory.repo?; rw [hv], hfailing, fun _ => rfl⟩

/-! ## Listings -/

/-- With distinct keys, looking up the key of a member gives its value. -/
theorem lookup_of_mem {α : Type} {l : List (String × α)} (h : (l.map Prod.fst).Nodup)
    {f : String × α} (hf : f ∈ l) : l.lookup f.1 = some f.2 := by
  induction l with
  | nil => cases hf
  | cons g l ih =>
    obtain ⟨k, v⟩ := g
    rw [List.map_cons, List.nodup_cons] at h
    cases List.mem_cons.mp hf with
    | inl heq => simp [heq]
    | inr hmem =>
      have hne : (f.1 == k) = false := by
        rw [beq_eq_false_iff_ne]
        exact fun heq => h.1 (List.mem_map.mpr ⟨f, hmem, heq⟩)
      rw [List.lookup_cons, hne]
      exact ih h.2 hmem

/-- The files of a repository to index are the blobs of its tree. -/
theorem Memory.indexableEntries_treeOf (r : MemoryRepo) :
    indexableEntries (Memory.treeOf r) = (r.files.filter fun f => Language.isIndexable f.1).map
      fun f => ⟨f.1, Memory.contentIdOf f.2, .blob⟩ := by
  unfold indexableEntries Memory.treeOf
  simp only [List.filter_append, List.filter_map]
  rw [List.filter_eq_nil_iff.mpr, List.map_nil, List.nil_append]
  · congr 1
  · intro d _
    simp [TreeEntry.isIndexable]

/-- With one file for each path, the listing of a repository in memory is that of its tree. -/
theorem Memory.lists_treeOf {r : MemoryRepo} (h : (r.files.map Prod.fst).Nodup) :
    Lists (Memory.treeOf r) (Memory.fileTree r) := by
  refine ⟨?_, fun e he => ?_, fun p file hfile hindexable => ?_⟩
  · rw [Memory.indexableEntries_treeOf, List.map_map]
    exact h.sublist (List.filter_sublist.map _)
  · rw [Memory.indexableEntries_treeOf] at he
    obtain ⟨f, hf, rfl⟩ := List.mem_map.mp he
    have hlookup := lookup_of_mem h (List.mem_filter.mp hf).1
    exact ⟨⟨f.2, Memory.contentIdOf f.2⟩, by simp [Memory.fileTree, hlookup], rfl⟩
  · obtain ⟨content, hlookup, -⟩ := Option.map_eq_some_iff.mp hfile
    obtain ⟨before, after, hfiles, -⟩ := List.lookup_eq_some_iff.mp hlookup
    rw [Memory.indexableEntries_treeOf]
    refine ⟨_, List.mem_map_of_mem (a := (p, content)) (List.mem_filter.mpr ⟨?_, hindexable⟩), rfl⟩
    simp [hfiles]

/-- A host in memory with one file for each path shows coherent trees. -/
theorem Memory.coherent {r : MemoryRepo} (h : (r.files.map Prod.fst).Nodup) :
    Snapshot.Coherent ⟨r.head, Memory.treeOf r, Memory.fetchFrom r⟩ := by
  have hlists := Memory.lists_treeOf h
  refine ⟨hlists.distinct, fun e he file hfile => ?_⟩
  obtain ⟨file', hfile', hsha⟩ := hlists.sound e he
  cases (Memory.fileTree_of_fetchFrom hfile).symm.trans hfile'
  exact hsha

/-! ## Contents -/

/-- A file with one of these contents, as a host in memory gives it out. -/
def Memory.FileOf (contents : List String) (file : File) : Prop :=
  ∃ s ∈ contents, file = ⟨s, Memory.contentIdOf s⟩

theorem Memory.FileOf.mono {contents contents' : List String} {file : File}
    (hfile : Memory.FileOf contents file) (h : ∀ s ∈ contents, s ∈ contents') :
    Memory.FileOf contents' file :=
  hfile.imp fun s hs => ⟨h s hs.1, hs.2⟩

theorem Memory.collisionFree_fileOf {contents : List String}
    (h : (contents.map Memory.contentIdOf).Nodup) : CollisionFree (Memory.FileOf contents) := by
  rintro _ _ ⟨s, hs, rfl⟩ ⟨t, ht, rfl⟩ hsha
  rw [List.inj_on_of_nodup_map h hs ht hsha]

/-- Every file of the tree of a repository in memory has one of its contents. -/
theorem Memory.fileOf_fileTree {r : MemoryRepo} {p : String} {file : File}
    (h : Memory.fileTree r p = some file) : Memory.FileOf (r.files.map Prod.snd) file := by
  obtain ⟨s, hs, rfl⟩ := Option.map_eq_some_iff.mp h
  obtain ⟨before, after, hfiles, -⟩ := List.lookup_eq_some_iff.mp hs
  exact ⟨s, List.mem_map.mpr ⟨(p, s), by simp [hfiles], rfl⟩, rfl⟩

/-! ## Versions -/

/-- The timeline of the versions of a repository in memory and the pushes between them. -/
def Memory.timeline (versions : Nat → MemoryRepo) (push : Nat → ChangeSet) : Timeline where
  tree v := Memory.fileTree (versions v)
  commit v := (versions v).head
  push := push

/-- The repositories of the host are those of some version. -/
def Memory.AtVersion (repo : RepoId) (versions : Nat → MemoryRepo) (h : Memory) : Prop :=
  ∃ v, h.repos = (Memory.single repo (versions v)).repos

section Versions

variable {repo : RepoId} {versions : Nat → MemoryRepo} {push : Nat → ChangeSet}
  {place : List (String × MemoryRepo) → Nat}

/-- A host in memory whose repository goes from version to version follows their timeline. -/
theorem Memory.service_follows (branch : String)
    (hnodup : ∀ v, ((versions v).files.map Prod.fst).Nodup)
    (hfailing : ∀ v, (versions v).failing = [])
    (hplace : ∀ v, place (Memory.single repo (versions v)).repos = v) :
    Memory.service.Follows repo branch (Memory.timeline versions push)
      (Memory.AtVersion repo versions) fun h => place h.repos := by
  refine ⟨Memory.service_keeps fun repos => ∃ v, repos = (Memory.single repo (versions v)).repos,
    fun k => Memory.service_keeps fun repos => k ≤ place repos, fun {h id} hname hv => ?_,
    fun {h id j} hname hv hj => ?_, fun {id} j hname => ?_⟩
  · obtain ⟨v, hv⟩ := hv
    show h.ask id _ = .ok (versions (place h.repos)).head
    rw [Memory.ask_eq _ (Memory.repo?_single repo (versions v)) hname hv, hv, hplace]
  · obtain ⟨v, hv⟩ := hv
    have hpos : place h.repos = v := hv ▸ hplace v
    refine ⟨v, Memory.treeOf (versions v), hpos ▸ hj, Nat.le_of_eq hpos.symm, ?_,
      Memory.lists_treeOf (hnodup v)⟩
    exact Memory.ask_eq _ (Memory.repo?_single repo (versions v)) hname hv
  · refine Memory.serves_of (P := fun repos =>
      (∃ v, repos = (Memory.single repo (versions v)).repos) ∧ j ≤ place repos)
      (S := fun repos => (Memory.timeline versions push).Sees j (place repos)) hname ?_
    rintro h₀ ⟨⟨v, hv⟩, hj⟩
    have hpos : place h₀.repos = v := hv ▸ hplace v
    refine ⟨versions v, ?_, hfailing v, fun p => ⟨v, hpos ▸ hj, Nat.le_of_eq hpos.symm, rfl⟩⟩
    unfold Memory.repo?
    rw [hv]
    exact Memory.repo?_single repo (versions v)

/-- What a host in memory gives out has a content of one of the versions. -/
theorem Memory.service_gives {contents : List String}
    (hcontents : ∀ v, ∀ s ∈ (versions v).files.map Prod.snd, s ∈ contents) :
    Memory.service.Gives (Memory.AtVersion repo versions) (Memory.FileOf contents) := by
  rintro h id path ref file ⟨v, hv⟩ hfetch
  have hfetch : h.ask id (fun r => Memory.fetchFrom r path) = .ok file := hfetch
  unfold Memory.ask at hfetch
  cases hr : h.repo? id with
  | none =>
    rw [hr] at hfetch
    cases hfetch
  | some r =>
    rw [hr] at hfetch
    have heq : r = versions v := by
      unfold Memory.repo? at hr
      rw [hv] at hr
      obtain ⟨before, after, hrepos, -⟩ := List.lookup_eq_some_iff.mp hr
      have hmem : (id.fullName, r) ∈ (Memory.single repo (versions v)).repos := by simp [hrepos]
      exact congrArg Prod.snd (List.mem_singleton.mp hmem)
    subst heq
    exact (Memory.fileOf_fileTree (Memory.fileTree_of_fetchFrom hfetch)).mono (hcontents v)

end Versions

/-! ## Examples -/

/-- A repository of the examples. -/
def widgets : RepoId :=
  ⟨"octo", "widgets"⟩

/-- A coordinator that works with a host in memory. -/
def memorySetup : Setup Memory :=
  { service := Memory.service }

/-- A world with one repository at its host and this store. -/
def worldOf (r : MemoryRepo) (store : Store) : World Memory :=
  { store, host := Memory.single widgets r, now := ⟨1700000000000⟩ }

/-- Versions of a repository whose two files trade their contents, one after the other. -/
def trading (v : Nat) : MemoryRepo :=
  { head := String.ofList (List.replicate (v + 1) 'c')
    files := [("a.py", if v = 0 then "A = 1\n" else "B = 2\n"),
      ("b.py", if v ≤ 1 then "B = 2\n" else "A = 1\n")] }

/-- The pushes that lead from each version to the next. -/
def tradingPush (k : Nat) : ChangeSet :=
  { changed := if k = 0 then ["a.py"] else if k = 1 then ["b.py"] else []
    revision := some (trading (k + 1)).head }

/-- The version of the first repository of a host. -/
def place (repos : List (String × MemoryRepo)) : Nat :=
  (repos.map fun r => r.2.head.length - 1).headD 0

theorem length_head_trading (v : Nat) : (trading v).head.length = v + 1 := by
  simp [trading]

theorem trading_follows (branch : String) :
    Memory.service.Follows widgets branch (Memory.timeline trading tradingPush)
      (Memory.AtVersion widgets trading) fun h => place h.repos := by
  refine Memory.service_follows _ (fun v => ?_) (fun _ => rfl) fun v => ?_
  · simp [trading]
  · simp [place, Memory.single, length_head_trading]

theorem trading_contents (v : Nat) :
    ∀ s ∈ (trading v).files.map Prod.snd, s ∈ ["A = 1\n", "B = 2\n"] := by
  simp only [trading, List.map_cons, List.map_nil, List.mem_cons, List.not_mem_nil, or_false]
  rintro s (rfl | rfl) <;> split <;> simp

/-- A version has the two files and no others. -/
theorem fileTree_trading (v : Nat) (p : String) :
    (Memory.timeline trading tradingPush).tree v p =
      (if p = "a.py" then some (if v = 0 then "A = 1\n" else "B = 2\n")
        else if p = "b.py" then some (if v ≤ 1 then "B = 2\n" else "A = 1\n")
        else none).map fun s => ⟨s, Memory.contentIdOf s⟩ := by
  simp only [Memory.timeline, Memory.fileTree, trading, List.lookup_cons, List.lookup_nil]
  by_cases ha : p = "a.py"
  · simp [ha]
  · by_cases hb : p = "b.py"
    · simp [hb]
    · simp [ha, hb, beq_eq_false_iff_ne.mpr ha, beq_eq_false_iff_ne.mpr hb]

theorem trading_lawful : (Memory.timeline trading tradingPush).Lawful where
  fresh i j h := by
    have hlength := congrArg String.length h
    simp only [Memory.timeline, length_head_trading] at hlength
    exact Nat.succ.inj hlength
  distinct k := by
    simp only [Memory.timeline, tradingPush]
    split
    · decide
    · split <;> decide
  changed k p := by
    rw [fileTree_trading, fileTree_trading]
    simp only [Memory.timeline, tradingPush]
    by_cases ha : p = "a.py"
    · by_cases hk : k = 0 <;> simp [ha, hk]
    · by_cases hb : p = "b.py"
      · subst hb
        by_cases hk : k = 1
        · simp [hk]
        · by_cases hk' : k = 0
          · simp [hk']
          · simp [hk, hk', show ¬k ≤ 1 by omega]
      · split
        · simp [ha]
        · split <;> simp [hb]
  deleted k p := by
    rw [fileTree_trading, fileTree_trading]
    simp only [Memory.timeline, tradingPush, List.not_mem_nil, false_iff, not_and]
    split
    · simp
    · split <;> simp
  revision _ := rfl

theorem trading_genuine (v : Nat) (p : String) (file : File)
    (h : (Memory.timeline trading tradingPush).tree v p = some file) :
    Memory.FileOf ["A = 1\n", "B = 2\n"] file :=
  (Memory.fileOf_fileTree h).mono (trading_contents v)

theorem collisionFree_trading : CollisionFree (Memory.FileOf ["A = 1\n", "B = 2\n"]) :=
  Memory.collisionFree_fileOf (by decide +kernel)

end ContextIndex.Remote
