import ContextIndex.Query.Outline
import ContextIndex.Remote.Service

/-!
# Changes since a revision

The commits of a branch after a revision and the paths that they touch.  Without a revision the one
of the last sync counts.  A commit whose paths the host does not tell stays in the list.
-/

namespace ContextIndex.Query

/-- Changes since a revision. -/
structure DiffReport where
  /-- The revision. -/
  since : String
  /-- The newest commit after it. -/
  head : Option String
  /-- The commits after it, newest first. -/
  commits : List Remote.Commit
  /-- The paths touched, each once, as they come. -/
  changedFiles : List String
deriving DecidableEq, Repr

/-- A report as JSON. -/
def DiffReport.toJson (x : DiffReport) : Json :=
  .object [("since", .string x.since), ("head", .ofText? x.head),
    ("commits", .array (x.commits.map fun c =>
      .object [("sha", .string c.sha), ("message", .string c.message)])),
    ("changedFiles", .ofTexts x.changedFiles)]

/-- The paths that commits touch, commit by commit, as far as the host tells. -/
def touchedPaths {σ : Type} (service : Remote.Service σ) (repo : RepoId) :
    List Remote.Commit → σ → List String × σ
  | [], h => ([], h)
  | c :: cs, h =>
    let (answer, h) := service.commitFiles repo c.sha h
    let (paths, h) := touchedPaths service repo cs h
    (answer.toOption.getD [] ++ paths, h)

/-- The changes of a branch since a revision. -/
def diffReport {σ : Type} (s : Store) (service : Remote.Service σ) (repo : RepoId)
    (branch : String) (since : Option String) (h : σ) : Except Error (Envelope DiffReport) × σ :=
  match requireRepo s repo with
  | .error e => (.error e, h)
  | .ok row =>
    match since.or row.lastRevision with
    | none => (.error (.request (.noRevision repo.fullName)), h)
    | some since =>
      match service.commitsSince repo branch since h with
      | (.error e, h) => (.error (.remote e), h)
      | (.ok commits, h) =>
        let (paths, h) := touchedPaths service repo commits h
        let x : DiffReport := ⟨since, commits.head?.map Remote.Commit.sha, commits, paths.eraseDups⟩
        (.ok (.complete x (jsonCost x.toJson)), h)

end ContextIndex.Query
