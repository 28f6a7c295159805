import ContextIndex.Remote.GitHub.Endpoint
import ContextIndex.Remote.GitHub.Reply
import ContextIndex.Remote.Service

/-!
# GitHub as a host

Each question is one request.  The newest commits of a branch are asked for in one page, and those
before the given one are the answer.
-/

namespace ContextIndex.Remote.GitHub

/-- The record that the host answers with at an address. -/
def ask {α : Type} (t : Http.Transport) (a : Access) (read : Json → Option α) (u : Url) :
    Except RemoteError α :=
  let r := request a u
  if ¬ u.hasHost then .error (.unsendable r.address)
  else if a.token.any fun token => !Http.isHeaderText token then .error .badToken
  else if ¬ u.requested.isRequestable then .error (.unsendable r.address)
  else
    match t r with
    | none => .error (.unreachable r.address)
    | some response =>
      if response.succeeded then decode read response.body
      else .error (failureOf response.status u.path response.body)

/-- What the host says about a path that leads to a file. -/
def contents (t : Http.Transport) (a : Access) (repo : RepoId) (path reference : String) :
    Except RemoteError Contents := do
  let c ← ask t a contents? (← contentsEndpoint a repo path reference)
  c.asFile path

/-- The description of a repository. -/
def metadata (t : Http.Transport) (a : Access) (repo : RepoId) : Except RemoteError Metadata := do
  ask t a metadata? (← endpoint a repo [])

/-- The revision at the head of a branch. -/
def head (t : Http.Transport) (a : Access) (repo : RepoId) (branch : String) :
    Except RemoteError String := do
  ask t a head? (← endpoint a repo ["branches", branch])

/-- Everything in a tree. -/
def tree (t : Http.Transport) (a : Access) (repo : RepoId) (reference : String) :
    Except RemoteError (List TreeEntry) := do
  ask t a tree? (← treeEndpoint a repo reference)

/-- A file. -/
def fetch (t : Http.Transport) (a : Access) (repo : RepoId) (path reference : String) :
    Except RemoteError File := do
  (← contents t a repo path reference).toFile path

/-- The identity of the content of a file. -/
def contentId (t : Http.Transport) (a : Access) (repo : RepoId) (path reference : String) :
    Except RemoteError String := do
  return (← contents t a repo path reference).sha

/-- The commits of a branch after a commit, as far as they are on the first page. -/
def commitsSince (t : Http.Transport) (a : Access) (repo : RepoId) (branch since : String) :
    Except RemoteError (List Commit) := do
  let commits ← ask t a (Json.list? commit?) (← commitsEndpoint a repo branch)
  return commits.takeWhile fun c => c.sha ≠ since

/-- The paths that a commit touches. -/
def commitFiles (t : Http.Transport) (a : Access) (repo : RepoId) (sha : String) :
    Except RemoteError (List String) := do
  ask t a commitFiles? (← endpoint a repo ["commits", sha])

/-- GitHub as a service; asking changes nothing. -/
def service (t : Http.Transport) (a : Access) : Service Unit where
  metadata repo _ := (metadata t a repo, ())
  head repo branch _ := (head t a repo branch, ())
  tree repo reference _ := (tree t a repo reference, ())
  fetch repo path reference _ := (fetch t a repo path reference, ())
  contentId repo path reference _ := (contentId t a repo path reference, ())
  commitsSince repo branch since _ := (commitsSince t a repo branch since, ())
  commitFiles repo sha _ := (commitFiles t a repo sha, ())

end ContextIndex.Remote.GitHub
