import ContextIndex.Query.Envelope
import ContextIndex.Store.Basic

/-!
# What queries look up

Every query is about a stored repository, and most are about a stored file of it.
-/

namespace ContextIndex.Query

/-- The repository that a query is about. -/
def requireRepo (s : Store) (repo : RepoId) : Except Error RepoRow :=
  match s.getRepo repo with
  | .error e => .error e
  | .ok none => .error (.repoNotFound repo.fullName)
  | .ok (some row) => .ok row

/-- The file that a query is about. -/
def requireFile (s : Store) (repo : RepoRow) (path : String) : Except Error FileRow :=
  match s.file? repo.id path with
  | none => .error (.fileNotFound repo.fullName path)
  | some f => .ok f

/-- A repository that is found is stored. -/
theorem getRepo_of_requireRepo {s : Store} {repo : RepoId} {row : RepoRow}
    (h : requireRepo s repo = .ok row) : s.getRepo repo = .ok (some row) := by
  unfold requireRepo at h
  split at h
  · cases h
  · cases h
  · next hrow =>
    cases h
    exact hrow

/-- A file that is found is stored. -/
theorem file?_of_requireFile {s : Store} {repo : RepoRow} {path : String} {f : FileRow}
    (h : requireFile s repo path = .ok f) : s.file? repo.id path = some f := by
  unfold requireFile at h
  split at h
  · cases h
  · next hfile =>
    cases h
    exact hfile

/-- Lines of a stored file. -/
def linesOf (f : FileRow) (first last : Nat) : List Char :=
  Text.lineRange f.content.toList first last

end ContextIndex.Query
