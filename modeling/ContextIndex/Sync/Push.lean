import ContextIndex.Error
import ContextIndex.Json.Decode
import ContextIndex.Json.Shape
import ContextIndex.Repo

/-!
# Push events

A host reports a push as a JSON document.  The index reads the repository, the reference pushed to,
the commit it points to afterwards, and the paths that each commit added, modified and removed.
-/

namespace ContextIndex.Sync

/-- The paths that one commit touches. -/
structure PushCommit where
  /-- Paths added. -/
  added : List String := []
  /-- Paths modified. -/
  modified : List String := []
  /-- Paths removed. -/
  removed : List String := []
deriving DecidableEq, Repr, Inhabited

/-- A push. -/
structure PushEvent where
  /-- Owner and name of the repository, as given. -/
  repository : String
  /-- The reference pushed to. -/
  reference : Option String := none
  /-- The commit the reference points to afterwards. -/
  after : Option String := none
  /-- The commits pushed. -/
  commits : List PushCommit := []
deriving DecidableEq, Repr, Inhabited

/-- The paths a partial sync has to touch, each list without repetition and ordered. -/
structure ChangeSet where
  /-- Paths added or modified. -/
  changed : List String := []
  /-- Paths removed. -/
  deleted : List String := []
  /-- The revision the changes lead to. -/
  revision : Option String := none
deriving DecidableEq, Repr, Inhabited

/-- A path put in its place in an ordered list, unless it is there. -/
def insertPath (p : String) : List String → List String
  | [] => [p]
  | q :: qs => if p < q then p :: q :: qs else if p = q then q :: qs else q :: insertPath p qs

/-- Paths in order, each once. -/
def pathSet (ps : List String) : List String :=
  ps.foldl (fun set p => insertPath p set) []

/-- Whether no path has to be touched. -/
def ChangeSet.isEmpty (c : ChangeSet) : Bool :=
  c.changed.isEmpty && c.deleted.isEmpty

namespace PushEvent

/-- A list of paths. -/
def paths? (v : Json) : Option (List String) :=
  Json.list? Json.text? v

/-- The paths of a commit in JSON. -/
def commit? (v : Json) : Option PushCommit := do
  let slots ← v.slots? ["added", "modified", "removed"]
  match slots with
  | [added, modified, removed] =>
    return { added := ← added.withDefault [] paths?
             modified := ← modified.withDefault [] paths?
             removed := ← removed.withDefault [] paths? }
  | _ => none

/-- The name of a repository in JSON. -/
def repository? (v : Json) : Option String := do
  match ← v.slots? ["full_name"] with
  | [name] => name.required Json.text?
  | _ => none

/-- The push in a JSON document. -/
def ofJson? (v : Json) : Option PushEvent := do
  let slots ← v.slots? ["repository", "ref", "after", "commits"]
  match slots with
  | [repository, reference, after, commits] =>
    return { repository := ← repository.required repository?
             reference := ← reference.optionalOrMissing Json.text?
             after := ← after.optionalOrMissing Json.text?
             commits := ← commits.withDefault [] (Json.list? commit?) }
  | _ => none

/-- The shape of a list of paths. -/
def pathsShape : Json.Shape := .list .text

/-- The shape of a commit. -/
def commitShape : Json.Shape :=
  .record "struct PushCommit"
    [{ name := "added", shape := pathsShape },
     { name := "modified", shape := pathsShape },
     { name := "removed", shape := pathsShape }]

/-- The shape of a repository. -/
def repositoryShape : Json.Shape :=
  .record "struct PushRepository" [{ name := "full_name", shape := .text, required := true }]

/-- The shape of a push. -/
def shape : Json.Shape :=
  .record "struct PushEvent"
    [{ name := "repository", shape := repositoryShape, required := true },
     { name := "ref", shape := .optional .text },
     { name := "after", shape := .optional .text },
     { name := "commits", shape := .list commitShape }]

/-- The push in a text. -/
def parse (payload : String) : Except Error PushEvent :=
  match (Json.parse? payload).bind ofJson? with
  | some e => .ok e
  | none => .error (.json (shape.misreading payload))

/-- The repository pushed to. -/
def repoId (e : PushEvent) : Except Error RepoId :=
  match RepoId.parse? e.repository with
  | some r => .ok r
  | none => .error (.invalidRepo e.repository)

/-- What a text has after a beginning, if it begins so. -/
def stripBeginning (beginning s : String) : Option String :=
  (beginning.toList.isPrefixOf? s.toList).map String.ofList

/-- The branch pushed to, if the reference names one. -/
def branch (e : PushEvent) : Option String :=
  e.reference.bind (stripBeginning "refs/heads/")

/-- Whether a push goes to a branch.  A push without a reference goes to any. -/
def targetsBranch (e : PushEvent) (branch : String) : Bool :=
  match e.reference with
  | none => true
  | some _ => e.branch == some branch

/-- Whether a commit id is the one of no commit: zeros only. -/
def isNullSha (sha : String) : Bool :=
  !sha.isEmpty && sha.toList.all (· == '0')

/-- The paths that a push touches.  A path may be changed and deleted: a partial sync deletes first
and then looks the path up, so that its last state counts. -/
def changeSet (e : PushEvent) : ChangeSet :=
  { changed := pathSet (e.commits.flatMap fun c => c.added ++ c.modified)
    deleted := pathSet (e.commits.flatMap fun c => c.removed)
    revision := e.after.filter fun sha => !isNullSha sha }

end PushEvent

end ContextIndex.Sync
