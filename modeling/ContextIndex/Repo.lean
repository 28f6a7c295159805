import ContextIndex.Text.CharClass

/-!
# Repository identity

A repository is identified by an owner and a name, written with a slash between them.
-/

namespace ContextIndex

/-- The identity of a repository. -/
structure RepoId where
  /-- Who owns it. -/
  owner : String
  /-- What it is called there. -/
  name : String
deriving DecidableEq, Repr, Inhabited

namespace RepoId

/-- Owner and name with a slash between them. -/
def fullName (r : RepoId) : String :=
  r.owner ++ "/" ++ r.name

/-- The identity in a text: exactly one slash and something on either side.  White space around
the whole is not part of it. -/
def parse? (text : String) : Option RepoId :=
  let cs := Text.trim text.toList
  let owner := cs.takeWhile (· ≠ '/')
  match cs.dropWhile (· ≠ '/') with
  | [] => none
  | _ :: name =>
    if owner.isEmpty || name.isEmpty || name.contains '/' then none
    else some ⟨String.ofList owner, String.ofList name⟩

end RepoId

end ContextIndex
