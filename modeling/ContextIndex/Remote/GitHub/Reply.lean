import ContextIndex.Http
import ContextIndex.Json.Decode
import ContextIndex.Json.Parser
import ContextIndex.Remote.Basic
import ContextIndex.Text.Base64
import ContextIndex.Text.CharClass
import ContextIndex.Text.Utf8

/-!
# The answers of GitHub

An answer is a status and a record in JSON.  A status that is no success says what is wrong; a record
is read by its declared fields.
-/

namespace ContextIndex.Remote.GitHub

open Json (slots? text? list? bool?)

/-- Whether a text occurs in another. -/
def occursIn (needle : List Char) : List Char → Bool
  | [] => needle.isEmpty
  | c :: cs => needle.isPrefixOf (c :: cs) || occursIn needle cs

/-- The failure that a status means, for a path on the host. -/
def failureOf (status : Nat) (path body : String) : RemoteError :=
  if status = 404 then .notFound path
  else if status = 401 then .unauthorized body
  else if (status = 403 ∨ status = 429) ∧ occursIn "rate limit".toList body.toList then
    .rateLimited body
  else if status = 403 then .unauthorized body
  else .refused status body

/-- The record in an answer. -/
def decode {α : Type} (read : Json → Option α) (body : String) : Except RemoteError α :=
  match (Json.parse? body).bind read with
  | some a => .ok a
  | none => .error (.malformed "error decoding response body")

/-! ## Records -/

/-- The description of a repository. -/
def metadata? (v : Json) : Option Metadata := do
  match ← slots? ["description", "language", "default_branch"] v with
  | [description, language, branch] =>
    return ⟨← description.optional text?, ← language.optional text?, ← branch.optional text?⟩
  | _ => none

/-- The id of a commit. -/
def commitId? (v : Json) : Option String := do
  match ← slots? ["sha"] v with
  | [sha] => sha.required text?
  | _ => none

/-- The commit at the head of a branch. -/
def head? (v : Json) : Option String := do
  match ← slots? ["commit"] v with
  | [commit] => commit.required commitId?
  | _ => none

/-- An entry of a tree, if its kind is known. -/
def entry? (v : Json) : Option (Option TreeEntry) := do
  match ← slots? ["path", "sha", "type"] v with
  | [path, sha, kind] =>
    let path ← path.required text?
    let sha ← sha.required text?
    let kind ← kind.required text?
    return (EntryKind.ofLabel? kind).map fun kind => ⟨path, sha, kind⟩
  | _ => none

/-- The entries of a tree.  The host may say that it left some out. -/
def tree? (v : Json) : Option (List TreeEntry) := do
  match ← slots? ["tree", "truncated"] v with
  | [tree, truncated] =>
    let entries ← tree.required (list? entry?)
    let _ ← truncated.withDefault false bool?
    return entries.filterMap id
  | _ => none

/-- What the host says about a path. -/
structure Contents where
  /-- What the path leads to. -/
  kind : String
  /-- The identity of its content. -/
  sha : String
  /-- The content, encoded. -/
  encoded : Option String
deriving DecidableEq, Repr

/-- What the host says about a path. -/
def contents? (v : Json) : Option Contents := do
  match ← slots? ["type", "sha", "content"] v with
  | [kind, sha, content] =>
    return ⟨← kind.required text?, ← sha.required text?, ← content.optionalOrMissing text?⟩
  | _ => none

/-- The message of a commit. -/
def message? (v : Json) : Option String := do
  match ← slots? ["message"] v with
  | [message] => message.required text?
  | _ => none

/-- A commit of a list. -/
def commit? (v : Json) : Option Commit := do
  match ← slots? ["sha", "commit"] v with
  | [sha, commit] => return ⟨← sha.required text?, ← commit.required message?⟩
  | _ => none

/-- The path of a file that a commit touches. -/
def touched? (v : Json) : Option String := do
  match ← slots? ["filename"] v with
  | [name] => name.required text?
  | _ => none

/-- The paths that a commit touches. -/
def commitFiles? (v : Json) : Option (List String) := do
  match ← slots? ["files"] v with
  | [files] => files.withDefault [] (list? touched?)
  | _ => none

/-! ## Contents -/

/-- The text of an encoded content, which may be broken into lines. -/
def contentText (encoded : String) : Except RemoteError String :=
  let letters := encoded.toList.filter fun c => !Text.isSpace c
  match Text.Base64.decode? letters with
  | some bytes => .ok (String.ofList (Text.fromUtf8 bytes))
  | none =>
    .error (.malformed (Text.Base64.faultOf (String.ofList letters).toUTF8.toList).message)

/-- The contents of a path that leads to a file. -/
def Contents.asFile (c : Contents) (path : String) : Except RemoteError Contents :=
  if c.kind = "file" then .ok c else .error (.notAFile path c.kind)

/-- The file of a path. -/
def Contents.toFile (c : Contents) (path : String) : Except RemoteError File :=
  match c.encoded with
  | none => .error (.noContent path)
  | some encoded => (contentText encoded).map fun text => ⟨text, c.sha⟩

end ContextIndex.Remote.GitHub
