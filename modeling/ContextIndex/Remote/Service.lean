import ContextIndex.Remote.Basic

/-!
# What the index asks of a host

A service answers seven questions about a repository.  A question may fail, and asking may change
the state of the service, such as a count of the questions asked.
-/

namespace ContextIndex.Remote

/-- The answer to a question and the service after it. -/
abbrev Reply (σ α : Type) := Except RemoteError α × σ

/-- A host of repositories with its state.  A reference is whatever the host resolves to a revision:
a branch or the id of a commit. -/
structure Service (σ : Type) where
  /-- The description of a repository. -/
  metadata : RepoId → σ → Reply σ Metadata
  /-- The revision at the head of a branch. -/
  head : RepoId → (branch : String) → σ → Reply σ String
  /-- Everything in a tree, recursively. -/
  tree : RepoId → (reference : String) → σ → Reply σ (List TreeEntry)
  /-- A file. -/
  fetch : RepoId → (path reference : String) → σ → Reply σ File
  /-- The identity of the content of a file. -/
  contentId : RepoId → (path reference : String) → σ → Reply σ String
  /-- The commits of a branch after a commit, newest first. -/
  commitsSince : RepoId → (branch since : String) → σ → Reply σ (List Commit)
  /-- The paths that a commit touches. -/
  commitFiles : RepoId → (sha : String) → σ → Reply σ (List String)

end ContextIndex.Remote
