import ContextIndex.Error
import ContextIndex.Http
import ContextIndex.Repo
import ContextIndex.Url.Parser

/-!
# The addresses of GitHub

Each question about a repository has an address below the root under which the host answers.  The
parts of a path of a file become segments of the address; empty parts are left out.
-/

namespace ContextIndex.Remote.GitHub

/-- How the host is asked. -/
structure Access where
  /-- The address under which it answers. -/
  root : String := "https://api.github.com"
  /-- The token of the user, if there is one. -/
  token : Option String := none
deriving DecidableEq, Repr

/-- Access with the token of an environment, unless that is empty. -/
def Access.withToken (root : String) (token : Option String) : Access :=
  ⟨root, token.filter (· ≠ "")⟩

/-- The number of commits asked for at a time. -/
def commitsAtATime : Nat := 100

/-- The address below a repository. -/
def endpoint (a : Access) (repo : RepoId) (segments : List String) : Except RemoteError Url :=
  match Url.parse a.root with
  | .error fault => .error (.badRoot a.root fault.message)
  | .ok u =>
    match u.extend? ("repos" :: repo.owner :: repo.name :: segments) with
    | none => .error (.unusableRoot a.root)
    | some u => .ok u

/-- The address of a file at a revision. -/
def contentsEndpoint (a : Access) (repo : RepoId) (path reference : String) :
    Except RemoteError Url :=
  (endpoint a repo ("contents" :: Path.segments path)).map fun u => u.addPair "ref" reference

/-- The address of a tree with everything in it. -/
def treeEndpoint (a : Access) (repo : RepoId) (reference : String) : Except RemoteError Url :=
  (endpoint a repo ["git", "trees", reference]).map fun u => u.addPair "recursive" "1"

/-- The address of the last commits of a branch. -/
def commitsEndpoint (a : Access) (repo : RepoId) (branch : String) : Except RemoteError Url :=
  (endpoint a repo ["commits"]).map fun u =>
    (u.addPair "sha" branch).addPair "per_page" (toString commitsAtATime)

/-- The name under which requests are made. -/
def userAgent : String := "repoctx/0.0.1"

/-- The request for an address. -/
def request (a : Access) (u : Url) : Http.Request where
  method := .get
  address := u.requested.text
  target := String.ofList u.target
  headers := [("user-agent", userAgent), ("accept", "application/vnd.github+json")] ++
    (a.token.map Http.bearer).toList

end ContextIndex.Remote.GitHub
