import ContextIndex.Digest
import ContextIndex.Remote.Service

/-!
# A host in memory

A host that is a plain value: for each repository its metadata, the revision at its head, its files
and its commits.  The identity of a content is its digest, so equal contents have equal identities.
The fetch of a path can be made to fail.  The host counts fetches, tree listings and lookups of
content identities, so that it shows what a sync costs.
-/

namespace ContextIndex.Remote

/-- A repository of the host. -/
structure MemoryRepo where
  /-- Its description. -/
  metadata : Metadata := {}
  /-- The revision at its head. -/
  head : String := ""
  /-- Its files, by path. -/
  files : List (String × String) := []
  /-- Its commits and the paths that each touches, newest first. -/
  commits : List (Commit × List String) := []
  /-- The paths whose fetch fails. -/
  failing : List String := []
deriving Repr, Inhabited

/-- A host in memory. -/
structure Memory where
  /-- The repositories by full name. -/
  repos : List (String × MemoryRepo) := []
  /-- How many files were fetched. -/
  fetches : Nat := 0
  /-- How many trees were listed. -/
  listings : Nat := 0
  /-- How many content identities were looked up. -/
  lookups : Nat := 0
deriving Repr, Inhabited

/-- An entry put in its place in a list ordered by key, instead of one with the same key. -/
def putSorted {α : Type} (key : String) (value : α) : List (String × α) → List (String × α)
  | [] => [(key, value)]
  | (k, v) :: rest =>
    if key < k then (key, value) :: (k, v) :: rest
    else if key = k then (key, value) :: rest
    else (k, v) :: putSorted key value rest

namespace Memory

/-- A repository of the host, if it has it. -/
def repo? (h : Memory) (repo : RepoId) : Option MemoryRepo :=
  h.repos.lookup repo.fullName

/-- A change to a repository, which is there from then on. -/
def modify (h : Memory) (repo : RepoId) (f : MemoryRepo → MemoryRepo) : Memory :=
  { h with repos := putSorted repo.fullName (f ((h.repo? repo).getD {})) h.repos }

/-! ## Setting the host up -/

/-- A repository with this description and head. -/
def add (h : Memory) (repo : RepoId) (metadata : Metadata) (head : String) : Memory :=
  h.modify repo fun r => { r with metadata, head }

/-- A file with this text. -/
def setFile (h : Memory) (repo : RepoId) (path content : String) : Memory :=
  h.modify repo fun r => { r with files := putSorted path content r.files }

/-- No file at a path. -/
def removeFile (h : Memory) (repo : RepoId) (path : String) : Memory :=
  h.modify repo fun r => { r with files := r.files.filter fun f => f.1 != path }

/-- Another revision at the head. -/
def setHead (h : Memory) (repo : RepoId) (head : String) : Memory :=
  h.modify repo fun r => { r with head }

/-- A new commit, which becomes the head. -/
def pushCommit (h : Memory) (repo : RepoId) (c : Commit) (files : List String) : Memory :=
  h.modify repo fun r => { r with commits := (c, files) :: r.commits, head := c.sha }

/-- A path whose fetch fails. -/
def failPath (h : Memory) (repo : RepoId) (path : String) : Memory :=
  h.modify repo fun r => { r with failing := path :: r.failing }

/-! ## Answers -/

/-- The directories above a path: what stands before each of its slashes, longest first. -/
def parents (path : String) : List String :=
  let rec go : List Char → List String
    | [] => []
    | c :: before => if c = '/' then String.ofList before.reverse :: go before else go before
  go path.toList.reverse

/-- The identity of a content. -/
def contentIdOf (content : String) : String :=
  Digest.ofText content

/-- The tree of a repository: its directories and then its files, each by path. -/
def treeOf (r : MemoryRepo) : List TreeEntry :=
  let dirs := (r.files.flatMap fun f => parents f.1).foldl (fun ds d => putSorted d () ds) []
  (dirs.map fun d => ⟨d.1, contentIdOf d.1, .tree⟩) ++
    r.files.map fun f => ⟨f.1, contentIdOf f.2, .blob⟩

/-- The answer of a repository, if the host has it. -/
def ask {α : Type} (h : Memory) (repo : RepoId) (f : MemoryRepo → Except RemoteError α) :
    Except RemoteError α :=
  match h.repo? repo with
  | some r => f r
  | none => .error (.notFound repo.fullName)

/-- A file of a repository. -/
def fetchFrom (r : MemoryRepo) (path : String) : Except RemoteError File :=
  if r.failing.contains path then .error (.connectionReset path)
  else match r.files.lookup path with
    | some content => .ok ⟨content, contentIdOf content⟩
    | none => .error (.notFound path)

/-- The identity of the content of a file. -/
def contentIdIn (r : MemoryRepo) (path : String) : Except RemoteError String :=
  match r.files.lookup path with
  | some content => .ok (contentIdOf content)
  | none => .error (.notFound path)

/-- The commits before the one with an id in the list; all if it is not there. -/
def newerThan (commits : List Commit) (since : String) : List Commit :=
  commits.takeWhile fun c => c.sha != since

/-- The paths that a commit touches. -/
def filesOfCommit (r : MemoryRepo) (sha : String) : Except RemoteError (List String) :=
  match r.commits.find? fun c => c.1.sha == sha with
  | some c => .ok c.2
  | none => .error (.notFound sha)

/-- The host as a service.  It has one tree, whatever the reference. -/
def service : Service Memory where
  metadata repo h := (h.ask repo fun r => .ok r.metadata, h)
  head repo _ h := (h.ask repo fun r => .ok r.head, h)
  tree repo _ h := (h.ask repo fun r => .ok (treeOf r), { h with listings := h.listings + 1 })
  fetch repo path _ h :=
    (h.ask repo fun r => fetchFrom r path, { h with fetches := h.fetches + 1 })
  contentId repo path _ h :=
    (h.ask repo fun r => contentIdIn r path, { h with lookups := h.lookups + 1 })
  commitsSince repo _ since h :=
    (h.ask repo fun r => .ok (newerThan (r.commits.map Prod.fst) since), h)
  commitFiles repo sha h := (h.ask repo fun r => filesOfCommit r sha, h)

end Memory

end ContextIndex.Remote
