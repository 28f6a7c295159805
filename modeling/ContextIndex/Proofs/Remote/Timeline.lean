import ContextIndex.Proofs.Remote.Tree

/-!
# The history of a repository at its host

A repository at its host goes through versions.  A push leads from each to the next: it lists the
paths that change and makes a new commit the head.  A service that `Follows` such a timeline answers
from some version between the one that it is asked for and the present one, so a host that keeps
every version and a host that knows only the present one both follow it, and pushes may come while a
sync asks its questions.
-/

namespace ContextIndex.Remote

open ContextIndex.Sync

/-- The versions of a repository and the pushes between them. -/
structure Timeline where
  /-- The files of a version. -/
  tree : Nat → Tree
  /-- The commit at the head of a version. -/
  commit : Nat → String
  /-- What leads from a version to the next. -/
  push : Nat → ChangeSet

namespace Timeline

/-- A push names a path. -/
def Names (t : Timeline) (k : Nat) (path : String) : Prop :=
  path ∈ (t.push k).changed ∨ path ∈ (t.push k).deleted

instance (t : Timeline) (k : Nat) (path : String) : Decidable (t.Names k path) :=
  inferInstanceAs (Decidable (_ ∨ _))

/-- Commits are fresh, and every push lists exactly the paths that it changes and those that it
removes, and its commit. -/
structure Lawful (t : Timeline) : Prop where
  fresh : ∀ i j, t.commit i = t.commit j → i = j
  distinct : ∀ k, (t.push k).changed.Nodup
  changed : ∀ k p, p ∈ (t.push k).changed ↔ t.tree (k + 1) p ≠ none ∧ t.tree k p ≠ t.tree (k + 1) p
  deleted : ∀ k p, p ∈ (t.push k).deleted ↔ t.tree k p ≠ none ∧ t.tree (k + 1) p = none
  revision : ∀ k, (t.push k).revision = some (t.commit (k + 1))

/-- From one version to another, a path may be seen with this file. -/
def Sees (t : Timeline) (first last : Nat) (path : String) (file : Option File) : Prop :=
  ∃ v, first ≤ v ∧ v ≤ last ∧ file = t.tree v path

variable {t : Timeline}

theorem Sees.mono {first last last' : Nat} {path : String} {file : Option File}
    (h : t.Sees first last path file) (hle : last ≤ last') : t.Sees first last' path file := by
  obtain ⟨v, hfirst, hlast, hfile⟩ := h
  exact ⟨v, hfirst, Nat.le_trans hlast hle, hfile⟩

/-- If a path has the same file all the time, it is seen with no other. -/
theorem Sees.eq_of_same {first last : Nat} {path : String} {file file' : Option File}
    (h : t.Sees first last path file') (hsame : ∀ v, first ≤ v → v ≤ last → t.tree v path = file) :
    file' = file := by
  obtain ⟨v, hfirst, hlast, rfl⟩ := h
  exact hsame v hfirst hlast

/-- A file that is seen is one of some version. -/
theorem Sees.exists_version {first last : Nat} {path : String} {file : File}
    (h : t.Sees first last path (some file)) : ∃ v, v ≤ last ∧ t.tree v path ≠ none := by
  obtain ⟨v, -, hlast, hfile⟩ := h
  exact ⟨v, hlast, fun hnone => nomatch hfile.trans hnone⟩

/-- A push that does not name a path leaves its file alone. -/
theorem Lawful.tree_succ (h : t.Lawful) {k : Nat} {p : String} (hnames : ¬t.Names k p) :
    t.tree (k + 1) p = t.tree k p := by
  unfold Names at hnames
  rw [h.changed, h.deleted, not_or] at hnames
  by_cases hnone : t.tree (k + 1) p = none
  · by_cases hnone' : t.tree k p = none
    · rw [hnone, hnone']
    · exact absurd ⟨hnone', hnone⟩ hnames.2
  · by_cases heq : t.tree k p = t.tree (k + 1) p
    · exact heq.symm
    · exact absurd ⟨hnone, heq⟩ hnames.1

/-- Between versions with no push that names a path, its file stays the same. -/
theorem Lawful.tree_eq (h : t.Lawful) {p : String} {first last : Nat} (hle : first ≤ last)
    (hnames : ∀ k, first ≤ k → k < last → ¬t.Names k p) : t.tree last p = t.tree first p := by
  induction hle with
  | refl => rfl
  | @step n hn ih =>
    rw [h.tree_succ (hnames n hn (Nat.lt_succ_self n))]
    exact ih fun k hk hkn => hnames k hk (Nat.lt_succ_of_lt hkn)

/-- A path that has had a file and has none was removed by a last push. -/
theorem Lawful.exists_deleted (h : t.Lawful) {p : String} {v last : Nat} (hle : v ≤ last)
    (hv : t.tree v p ≠ none) (hlast : t.tree last p = none) :
    ∃ k, v ≤ k ∧ k < last ∧ p ∈ (t.push k).deleted ∧
      ∀ i, k < i → i ≤ last → t.tree i p = none := by
  induction hle with
  | refl => exact absurd hlast hv
  | @step n hn ih =>
    by_cases hnone : t.tree n p = none
    · obtain ⟨k, hvk, hkn, hdel, hafter⟩ := ih hnone
      refine ⟨k, hvk, Nat.lt_succ_of_lt hkn, hdel, fun i hki hin => ?_⟩
      rcases Nat.le_succ_iff.mp hin with hin | rfl
      · exact hafter i hki hin
      · exact hlast
    · refine ⟨n, hn, Nat.lt_succ_self n, (h.deleted n p).mpr ⟨hnone, hlast⟩, fun i hni hin => ?_⟩
      rw [Nat.le_antisymm hin hni]
      exact hlast

end Timeline

/-- A listing is that of a tree: its files to index are those of the tree, each once and with the
identity of its content. -/
structure Lists (listing : List TreeEntry) (T : Tree) : Prop where
  distinct : ((indexableEntries listing).map TreeEntry.path).Nodup
  sound : ∀ e ∈ indexableEntries listing, ∃ file, T e.path = some file ∧ file.sha = e.sha
  complete : ∀ p file, T p = some file → Language.isIndexable p = true →
    ∃ e ∈ indexableEntries listing, e.path = p

/-- A service follows the timeline of a repository.  The state of the service has a position on the
timeline, which no question takes back; what is answered is from a version between the reference and
that position, and no call fails. -/
structure Service.Follows {σ : Type} (s : Service σ) (repo : RepoId) (branch : String)
    (t : Timeline) (Valid : σ → Prop) (position : σ → Nat) : Prop where
  keeps : s.Keeps Valid
  later : ∀ k, s.Keeps fun h => k ≤ position h
  head : ∀ {h : σ} {id : RepoId}, id.fullName = repo.fullName → Valid h →
    (s.head id branch h).1 = .ok (t.commit (position (s.head id branch h).2))
  tree : ∀ {h : σ} {id : RepoId} {j : Nat}, id.fullName = repo.fullName → Valid h →
    j ≤ position h → ∃ v listing, j ≤ v ∧ v ≤ position (s.tree id (t.commit j) h).2 ∧
      (s.tree id (t.commit j) h).1 = .ok listing ∧ Lists listing (t.tree v)
  serves : ∀ {id : RepoId} (j : Nat), id.fullName = repo.fullName →
    s.Serves id (t.commit j) (fun h => Valid h ∧ j ≤ position h)
      fun h p file => t.Sees j (position h) p file

end ContextIndex.Remote
