import ContextIndex.Proofs.Sync.Jobs
import ContextIndex.Sync.Push

/-!
# Trees and the commits between them

A tree gives each path the file there, if there is one.  Commits lead from one tree to the next, and
the paths that a push lists are those whose files they change (`Leads.eq_of_untouched`,
`Leads.none_of_deleted`).  A service serves a tree if it answers accordingly; how much of it a state
of the service may show is left to a predicate, so that the tree may also change while it is asked.

A full sync looks at the head of a branch, at the tree there and at the files of the tree.  A
`Snapshot` is all of this as a value, and a service `Shows` it if it answers accordingly for as long
as nobody changes the repository.
-/

namespace ContextIndex.Remote

open ContextIndex.Sync

/-- The file at each path. -/
abbrev Tree := String → Option File

/-! ## Commits -/

/-- A commit leads from one tree to the next and lists its paths correctly: what it adds and what it
removes, and among the paths that it modifies every one whose file is another. -/
structure Between (k : PushCommit) (T T' : Tree) : Prop where
  added : ∀ p, p ∈ k.added ↔ T p = none ∧ T' p ≠ none
  removed : ∀ p, p ∈ k.removed ↔ T p ≠ none ∧ T' p = none
  kept : ∀ p, p ∈ k.modified → T p ≠ none ∧ T' p ≠ none
  modified : ∀ p, T p ≠ none → T' p ≠ none → T p ≠ T' p → p ∈ k.modified

/-- Commits lead from one tree to another, one after the other. -/
inductive Leads : List PushCommit → Tree → Tree → Prop
  | nil (T : Tree) : Leads [] T T
  | cons {k : PushCommit} {ks : List PushCommit} {T T' T'' : Tree} : Between k T T' →
    Leads ks T' T'' → Leads (k :: ks) T T''

theorem Between.eq_of_untouched {k : PushCommit} {T T' : Tree} (h : Between k T T') {p : String}
    (hchanged : p ∉ k.added ++ k.modified) (hremoved : p ∉ k.removed) : T' p = T p := by
  rw [List.mem_append, not_or] at hchanged
  by_cases hT : T p = none
  · by_cases hT' : T' p = none
    · rw [hT, hT']
    · exact absurd ((h.added p).mpr ⟨hT, hT'⟩) hchanged.1
  · by_cases hT' : T' p = none
    · exact absurd ((h.removed p).mpr ⟨hT, hT'⟩) hremoved
    · by_cases heq : T p = T' p
      · exact heq.symm
      · exact absurd (h.modified p hT hT' heq) hchanged.2

/-- A path that no commit touches keeps its file. -/
theorem Leads.eq_of_untouched {ks : List PushCommit} {T T' : Tree} (h : Leads ks T T') {p : String}
    (hchanged : p ∉ ks.flatMap fun k => k.added ++ k.modified)
    (hremoved : p ∉ ks.flatMap fun k => k.removed) : T' p = T p := by
  induction h with
  | nil => rfl
  | cons hk _ ih =>
    simp only [List.flatMap_cons, List.mem_append, not_or] at hchanged hremoved
    rw [ih hchanged.2 hremoved.2]
    exact hk.eq_of_untouched (by simpa using hchanged.1) hremoved.1

/-- A path that commits remove and none adds or modifies has no file in the end. -/
theorem Leads.none_of_deleted {ks : List PushCommit} {T T' : Tree} (h : Leads ks T T') {p : String}
    (hchanged : p ∉ ks.flatMap fun k => k.added ++ k.modified)
    (hremoved : p ∈ ks.flatMap fun k => k.removed) : T' p = none := by
  induction h with
  | nil => cases hremoved
  | @cons k ks T T' T'' hk hks ih =>
    simp only [List.flatMap_cons, List.mem_append, not_or] at hchanged hremoved
    by_cases hrest : p ∈ ks.flatMap fun k => k.removed
    · exact ih hchanged.2 hrest
    · rw [hks.eq_of_untouched hchanged.2 hrest]
      exact ((hk.removed p).mp (hremoved.resolve_right hrest)).2

/-! ## Serving a tree -/

/-- A service answers for the paths of a repository at a reference as its states allow, and no call
fails: it gives a file out or does not have it. -/
structure Service.Serves {σ : Type} (s : Service σ) (repo : RepoId) (reference : String)
    (Valid : σ → Prop) (Sees : σ → String → Option File → Prop) : Prop where
  keeps : s.Keeps Valid
  stays : ∀ path file, s.Keeps fun h => Sees h path file
  fetch : ∀ {h : σ} (path : String), Valid h →
    match s.fetch repo path reference h with
    | (.ok file, h') => Sees h' path (some file)
    | (.error _, h') => Sees h' path none
  contentId : ∀ {h : σ} (path : String), Valid h →
    match s.contentId repo path reference h with
    | (.ok id, h') => ∃ file, file.sha = id ∧ Sees h' path (some file)
    | (.error e, h') => e.isNotFound = true ∧ Sees h' path none

/-- What a fetch may answer where these files may be seen. -/
def Fetched (sees : Option File → Prop) : Except RemoteError File → Prop
  | .ok file => sees (some file)
  | .error _ => sees none

theorem Service.Serves.answers {σ : Type} {s : Service σ} {repo : RepoId} {reference : String}
    {Valid : σ → Prop} {Sees : σ → String → Option File → Prop}
    (h : s.Serves repo reference Valid Sees) :
    s.Answers repo reference Valid fun host path answer => Fetched (Sees host path) answer where
  keeps := h.keeps
  stays path answer := by
    cases answer with
    | ok file => exact h.stays path (some file)
    | error e => exact h.stays path none
  answers {host} path hv := by
    have hfetch := h.fetch path hv
    split at hfetch <;> next heq => rw [heq]; exact hfetch

/-! ## Snapshots -/

/-- The head of a branch, the tree there and the answer to the fetch of each path. -/
structure Snapshot where
  /-- The revision at the head. -/
  head : String
  /-- Everything in the tree. -/
  tree : List TreeEntry
  /-- The answer to the fetch of a path, which may be a failure. -/
  fetch : String → Except RemoteError File

/-- The paths of the files to index. -/
def Snapshot.paths (x : Snapshot) : List String :=
  (indexableEntries x.tree).map TreeEntry.path

/-- The paths of a tree differ, and the tree tells the identity of each file. -/
structure Snapshot.Coherent (x : Snapshot) : Prop where
  distinct : x.paths.Nodup
  sha : ∀ e ∈ indexableEntries x.tree, ∀ file, x.fetch e.path = .ok file → file.sha = e.sha

/-- While its state is one of these, a service shows a snapshot of a repository. -/
structure Service.Shows {σ : Type} (s : Service σ) (repo : RepoId) (branch : String)
    (Valid : σ → Prop) (x : Snapshot) : Prop where
  keeps : s.Keeps Valid
  head : ∀ {h : σ} {id : RepoId}, id.fullName = repo.fullName → Valid h →
    (s.head id branch h).1 = .ok x.head
  tree : ∀ {h : σ} {id : RepoId}, id.fullName = repo.fullName → Valid h →
    (s.tree id x.head h).1 = .ok x.tree
  fetch : ∀ {h : σ} {id : RepoId} (path : String), id.fullName = repo.fullName → Valid h →
    (s.fetch id path x.head h).1 = x.fetch path

/-- Each path has the one answer of the snapshot. -/
theorem Service.Shows.answers {σ : Type} {s : Service σ} {repo id : RepoId} {branch : String}
    {Valid : σ → Prop} {x : Snapshot} (h : s.Shows repo branch Valid x)
    (hname : id.fullName = repo.fullName) :
    s.Answers id x.head Valid fun _ path answer => answer = x.fetch path where
  keeps := h.keeps
  stays _ _ := ⟨fun _ h => h, fun _ _ h => h, fun _ _ h => h, fun _ _ _ h => h, fun _ _ _ h => h⟩
  answers path hv := h.fetch path hname hv

end ContextIndex.Remote
