import ContextIndex.Error
import ContextIndex.Language
import ContextIndex.Repo

/-!
# Remote hosts

What the index asks of a host of repositories, as plain values, and the part of a tree listing that
is worth indexing.
-/

namespace ContextIndex.Remote

/-- What a host says about a repository. -/
structure Metadata where
  /-- A description. -/
  description : Option String := none
  /-- The main language. -/
  language : Option String := none
  /-- The branch shown first. -/
  defaultBranch : Option String := none
deriving DecidableEq, Repr, Inhabited

/-- What a tree entry is. -/
inductive EntryKind
  | blob
  | tree
  | commit
deriving DecidableEq, Repr, Inhabited

/-- The name of an entry kind. -/
def EntryKind.label : EntryKind → String
  | blob => "blob"
  | tree => "tree"
  | commit => "commit"

/-- The entry kind of a name. -/
def EntryKind.ofLabel? : String → Option EntryKind
  | "blob" => some blob
  | "tree" => some tree
  | "commit" => some commit
  | _ => none

/-- An entry of a tree listing. -/
structure TreeEntry where
  /-- Where it is. -/
  path : String
  /-- The identity of its content. -/
  sha : String
  /-- What it is. -/
  kind : EntryKind
deriving DecidableEq, Repr, Inhabited

/-- The content of a file and its identity. -/
structure File where
  /-- The text. -/
  content : String
  /-- The identity of the text. -/
  sha : String
deriving DecidableEq, Repr, Inhabited

/-- A commit. -/
structure Commit where
  /-- Its id. -/
  sha : String
  /-- Its message. -/
  message : String
deriving DecidableEq, Repr, Inhabited

/-- Whether an entry is a file that is indexed. -/
def TreeEntry.isIndexable (e : TreeEntry) : Bool :=
  e.kind == .blob && Language.isIndexable e.path

/-- The entries of a tree that are indexed. -/
def indexableEntries (tree : List TreeEntry) : List TreeEntry :=
  tree.filter TreeEntry.isIndexable

end ContextIndex.Remote
