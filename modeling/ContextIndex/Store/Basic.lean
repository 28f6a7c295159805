import ContextIndex.Error
import ContextIndex.Instant
import ContextIndex.Language
import ContextIndex.Remote.Basic
import ContextIndex.Repo
import ContextIndex.Symbol
import ContextIndex.Text.Line
import ContextIndex.Token

/-!
# The store

The store keeps repositories, their files with the symbols extracted from them, and the leases of
running syncs.  Files lie inside their repository and symbols inside their file, so none is without
an owner and what goes takes along what it holds.  Rows have numbers, which are given out once.
Reading a repository fails if the time of its last sync is kept as a text that cannot be read back.
-/

namespace ContextIndex

/-- What the store says about a repository. -/
structure RepoRow where
  /-- The number of the row. -/
  id : Nat
  /-- The owner. -/
  owner : String
  /-- The name. -/
  name : String
  /-- A description. -/
  description : Option String
  /-- The main language. -/
  language : Option String
  /-- The revision of the last full sync, or of the last push applied. -/
  lastRevision : Option String
  /-- When the last sync finished. -/
  lastSyncedAt : Option Instant
deriving DecidableEq, Repr, Inhabited

/-- The identity of a stored repository. -/
def RepoRow.repoId (r : RepoRow) : RepoId :=
  ⟨r.owner, r.name⟩

/-- Owner and name of a stored repository. -/
def RepoRow.fullName (r : RepoRow) : String :=
  r.repoId.fullName

/-- A stored file. -/
structure FileRow where
  /-- The number of the row. -/
  id : Nat
  /-- Where the file is. -/
  path : String
  /-- Its text. -/
  content : String
  /-- Its language. -/
  language : String
  /-- The number of its lines. -/
  lineCount : Nat
  /-- Its token cost. -/
  tokens : Nat
  /-- The identity of its content. -/
  contentId : String
  /-- The tag of the extractor that found its symbols. -/
  extractor : String
  /-- When the row was written. -/
  updatedAt : Instant
  /-- Its symbols, in the order in which they were written. -/
  symbols : List Symbol
deriving DecidableEq, Repr, Inhabited

/-- Whether a file was derived from this content by this extractor. -/
def FileRow.derivesFrom (f : FileRow) (contentId extractor : String) : Bool :=
  f.contentId == contentId && f.extractor == extractor

/-- A stored repository and its files. -/
structure RepoEntry where
  /-- What the store says about the repository. -/
  row : RepoRow
  /-- Its files. -/
  files : List FileRow
deriving DecidableEq, Repr, Inhabited

/-- A lease: one holder's claim to sync a repository until it expires. -/
structure Lease where
  /-- Owner and name of the repository. -/
  key : String
  /-- Who holds it. -/
  holder : String
  /-- When it was taken. -/
  acquiredAt : Instant
  /-- When it ends unless renewed. -/
  expiresAt : Instant
deriving DecidableEq, Repr, Inhabited

/-- Everything stored. -/
structure Store where
  /-- The repositories. -/
  repos : List RepoEntry := []
  /-- The leases. -/
  leases : List Lease := []
  /-- The number of the next repository. -/
  nextRepo : Nat := 1
  /-- The number of the next file. -/
  nextFile : Nat := 1
deriving DecidableEq, Repr, Inhabited

namespace Store

/-! ## Repositories -/

/-- The entry of a repository number. -/
def entry? (s : Store) (repo : Nat) : Option RepoEntry :=
  s.repos.find? fun e => e.row.id == repo

/-- The entry of a repository name. -/
def entryNamed? (s : Store) (fullName : String) : Option RepoEntry :=
  s.repos.find? fun e => e.row.fullName == fullName

/-- A change to the entry of one repository. -/
def modify (s : Store) (repo : Nat) (f : RepoEntry → RepoEntry) : Store :=
  { s with repos := s.repos.map fun e => if e.row.id = repo then f e else e }

/-- A row as it is read, unless its time cannot be read. -/
def readRepo (r : RepoRow) : Except Error RepoRow :=
  match r.lastSyncedAt with
  | some t => if t.isReadable then .ok r else .error (.storage (.unreadableTime 7))
  | none => .ok r

/-- The row of a repository, if it is stored. -/
def getRepo (s : Store) (repo : RepoId) : Except Error (Option RepoRow) :=
  match s.entryNamed? repo.fullName with
  | some e => (readRepo e.row).map some
  | none => .ok none

/-- The row of a repository, stored with the given metadata if it is new. -/
def insertRepo (s : Store) (repo : RepoId) (m : Remote.Metadata) : Except Error RepoRow × Store :=
  match s.entryNamed? repo.fullName with
  | some e => (readRepo e.row, s)
  | none =>
    let row : RepoRow := ⟨s.nextRepo, repo.owner, repo.name, m.description, m.language, none, none⟩
    (.ok row, { s with repos := s.repos ++ [⟨row, []⟩], nextRepo := s.nextRepo + 1 })

/-- All repositories, by name. -/
def listRepos (s : Store) : Except Error (List RepoRow) :=
  ((s.repos.map RepoEntry.row).mergeSort fun a b => decide (a.fullName ≤ b.fullName)).mapM readRepo

/-- Records a finished sync; without a revision only its time. -/
def recordSync (s : Store) (repo : Nat) (revision : Option String) (at_ : Instant) : Store :=
  s.modify repo fun e =>
    { e with row := { e.row with
        lastRevision := revision.or e.row.lastRevision
        lastSyncedAt := some at_ } }

/-! ## Files -/

/-- The files of a repository. -/
def files (s : Store) (repo : Nat) : List FileRow :=
  match s.entry? repo with
  | some e => e.files
  | none => []

/-- The number of files of a repository. -/
def countFiles (s : Store) (repo : Nat) : Nat :=
  (s.files repo).length

/-- The file at a path. -/
def file? (s : Store) (repo : Nat) (path : String) : Option FileRow :=
  (s.files repo).find? fun f => f.path == path

/-- The files of a repository, by path. -/
def listFiles (s : Store) (repo : Nat) : List FileRow :=
  (s.files repo).mergeSort fun a b => decide (a.path ≤ b.path)

/-- Whether the file at a path is stored and derived from this content by this extractor. -/
def isCurrent (s : Store) (repo : Nat) (path contentId extractor : String) : Bool :=
  (s.file? repo path).any fun f => f.derivesFrom contentId extractor

/-- What is written for a file.  Everything else of its row follows from this. -/
structure FileWrite where
  /-- Where the file is. -/
  path : String
  /-- Its text. -/
  content : String
  /-- The identity of its content. -/
  contentId : String
  /-- The tag of the extractor. -/
  extractor : String
  /-- The declarations found. -/
  symbols : List Declaration
deriving DecidableEq, Repr

/-- The number of lines of the text to be written. -/
def FileWrite.lineCount (w : FileWrite) : Nat :=
  Text.countLines w.content.toList

/-- Whether the range of a declaration lies in a file with this many lines. -/
def inRange (lineCount : Nat) (d : Declaration) : Bool :=
  decide (1 ≤ d.first) && decide (d.first ≤ d.last) && decide (d.last ≤ lineCount)

/-- The symbol of a declaration in a text. -/
def symbolOf (text : List Char) (d : Declaration) : Symbol :=
  ⟨d.name, d.kind, d.first, d.last, d.signature,
    Token.estimate (Text.lineRange text d.first d.last), d.parent⟩

/-- The symbols written with a file: those whose range lies in it. -/
def FileWrite.rows (w : FileWrite) : List Symbol :=
  (w.symbols.filter (inRange w.lineCount)).map (symbolOf w.content.toList)

/-- The row written for a file. -/
def FileWrite.row (w : FileWrite) (id : Nat) (now : Instant) : FileRow :=
  { id := id
    path := w.path
    content := w.content
    language := Language.ofPath w.path
    lineCount := w.lineCount
    tokens := Token.cost w.content
    contentId := w.contentId
    extractor := w.extractor
    updatedAt := now
    symbols := w.rows }

/-- What a conditional write did. -/
inductive Written
  /-- The file was current. -/
  | unchanged
  /-- The file was written with this many symbols. -/
  | written (symbols : Nat)
deriving DecidableEq, Repr

/-- A list of files with a row in the place of the one at its path, or at the end. -/
def putFile (row : FileRow) : List FileRow → List FileRow
  | [] => [row]
  | f :: fs => if f.path = row.path then row :: fs else f :: putFile row fs

/-- Writes a file and replaces its symbols, unless it is current and the write is not forced.  A
file that was there keeps its number. -/
def writeFile (s : Store) (repo : Nat) (w : FileWrite) (now : Instant) (force : Bool) :
    Except Error Written × Store :=
  if !force && s.isCurrent repo w.path w.contentId w.extractor then (.ok .unchanged, s)
  else match s.entry? repo with
    | none => (.error (.storage .unknownRepo), s)
    | some _ =>
      let put (id : Nat) (s : Store) : Store :=
        s.modify repo fun e => { e with files := putFile (w.row id now) e.files }
      let s := match s.file? repo w.path with
        | some f => put f.id s
        | none => { put s.nextFile s with nextFile := s.nextFile + 1 }
      (.ok (.written w.rows.length), s)

/-- Deletes a file, and says whether it was there. -/
def deleteFile (s : Store) (repo : Nat) (path : String) : Bool × Store :=
  ((s.file? repo path).isSome,
    s.modify repo fun e => { e with files := e.files.filter fun f => f.path != path })

/-! ## Symbols -/

/-- The symbols of a file, by first line. -/
def sortedSymbols (f : FileRow) : List Symbol :=
  f.symbols.mergeSort fun a b => decide (a.first ≤ b.first)

/-- The symbols of the file at a path, by first line. -/
def symbolsIn (s : Store) (repo : Nat) (path : String) : List Symbol :=
  match s.file? repo path with
  | some f => sortedSymbols f
  | none => []

/-- The first symbol of a name in a file, of one of the kinds unless there are none. -/
def findSymbol (f : FileRow) (name : String) (kinds : List SymbolKind) : Option Symbol :=
  (sortedSymbols f).find? fun y => y.name == name && (kinds.isEmpty || kinds.contains y.kind)

/-! ## Statistics -/

/-- Every stored file. -/
def allFiles (s : Store) : List FileRow :=
  s.repos.flatMap RepoEntry.files

/-- The number of symbols of all files. -/
def countSymbols (s : Store) : Nat :=
  total (s.allFiles.map fun f => f.symbols.length)

/-- How much is stored. -/
structure Stats where
  /-- Repositories. -/
  repos : Nat
  /-- Files. -/
  files : Nat
  /-- Symbols. -/
  symbols : Nat
  /-- The token cost of all files. -/
  tokens : Nat
  /-- Leases, expired ones included. -/
  leases : Nat
deriving DecidableEq, Repr

/-- How much is stored. -/
def stats (s : Store) : Stats :=
  { repos := s.repos.length
    files := s.allFiles.length
    symbols := s.countSymbols
    tokens := total (s.allFiles.map FileRow.tokens)
    leases := s.leases.length }

/-- The statistics as lines of text. -/
def Stats.display (t : Stats) : String :=
  "Database Statistics:\n" ++
    "  Repositories: " ++ toString t.repos ++ "\n" ++
    "  Files: " ++ toString t.files ++ "\n" ++
    "  Symbols: " ++ toString t.symbols ++ "\n" ++
    "  Tokens: " ++ toString t.tokens ++ "\n" ++
    "  Active leases: " ++ toString t.leases ++ "\n"

end Store

end ContextIndex
