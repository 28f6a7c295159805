import ContextIndex.Error
import ContextIndex.Path
import ContextIndex.Store.Basic

/-!
# Files

What a command finds on the disk and leaves there: directories, files with a text, and databases.  A
path is followed part by part, and each part but the last has to lead to a directory; a slash at its
end asks for a directory too.  A database is found in another way: its path is made plain first, so
that two dots lead back out of whatever was named before them.
-/

namespace ContextIndex.Command

/-- A place, as the names of the directories to it from the root, and its own. -/
abbrev Place := List String

/-- What is at a place. -/
inductive Entry
  /-- A directory. -/
  | directory
  /-- A file with a text. -/
  | text (text : String)
  /-- A database. -/
  | database (store : Store)
  /-- A file that stays empty. -/
  | void

/-- What is on the disk.  Whatever is on the way to an entry is a directory. -/
structure Disk where
  /-- The entries. -/
  entries : List (Place × Entry)

/-- What keeps a file from being read or written. -/
inductive DiskFault
  /-- There is no such file or directory. -/
  | missing
  /-- There is something already. -/
  | taken
  /-- It is no directory. -/
  | notADirectory
  /-- It is a directory. -/
  | directory
  /-- A name or the whole path is too long. -/
  | nameTooLong
  /-- The path holds a zero. -/
  | zeroByte
  /-- It holds no text. -/
  | notText
deriving DecidableEq, Repr

/-- The message of a fault. -/
def DiskFault.message : DiskFault → String
  | missing => "No such file or directory (os error 2)"
  | taken => "File exists (os error 17)"
  | notADirectory => "Not a directory (os error 20)"
  | directory => "Is a directory (os error 21)"
  | nameTooLong => "File name too long (os error 36)"
  | zeroByte => "file name contained an unexpected NUL byte"
  | notText => "stream did not contain valid UTF-8"

/-- The most bytes of a name. -/
def maxName : Nat := 255

/-- The most bytes of a path. -/
def maxPath : Nat := 4095

/-- The most bytes of the plain path of a database. -/
def maxDatabasePath : Nat := 511

namespace Disk

/-- The directories that are always there. -/
def standing : List String :=
  ["bin", "boot", "dev", "etc", "home", "lib", "media", "mnt", "opt", "proc", "root", "run", "sbin",
    "srv", "sys", "tmp", "usr", "var"]

/-- The disk with some directory, before anything is put there. -/
def around (directory : Place) : Disk :=
  ⟨(directory, .directory) :: (["dev", "null"], .void) ::
    standing.map fun name => ([name], .directory)⟩

/-! ## Entries -/

/-- The entries with one in the place of the one there, or at the end. -/
def putAt (place : Place) (e : Entry) : List (Place × Entry) → List (Place × Entry)
  | [] => [(place, e)]
  | (p, f) :: rest => if p = place then (p, e) :: rest else (p, f) :: putAt place e rest

/-- The disk with an entry at a place. -/
def put (d : Disk) (place : Place) (e : Entry) : Disk :=
  ⟨putAt place e d.entries⟩

/-- What is at a place. -/
def entry? (d : Disk) (place : Place) : Option Entry :=
  if d.entries.any fun (p, _) => place.isPrefixOf p && p != place then some .directory
  else d.entries.lookup place

/-- Whether a place is a directory. -/
def isDirectory (d : Disk) (place : Place) : Bool :=
  match d.entry? place with
  | some .directory => true
  | _ => false

/-! ## Paths -/

/-- Whether a text holds a zero, which no path does. -/
def hasZero (part : String) : Bool :=
  part.toList.contains '\x00'

/-- Where a part of a path leads from a place. -/
def follow (d : Disk) (place : Place) (part : String) : Except DiskFault Place :=
  if ¬ d.isDirectory place then .error .notADirectory
  else if part = "" ∨ part = "." then .ok place
  else if part = ".." then .ok place.dropLast
  else if maxName < part.utf8ByteSize then .error .nameTooLong
  else match d.entry? (place ++ [part]) with
    | some _ => .ok (place ++ [part])
    | none => .error .missing

/-- Where the parts of a path lead. -/
def locate (d : Disk) (parts : List String) : Except DiskFault Place :=
  if parts.any hasZero then .error .zeroByte else parts.foldlM d.follow []

/-- Whether the parts of a path lead anywhere. -/
def leads (d : Disk) (parts : List String) : Bool :=
  match d.locate parts with
  | .ok _ => true
  | .error _ => false

/-- The directory to which the parts of a path lead. -/
def locateDirectory (d : Disk) (parts : List String) : Except DiskFault Place := do
  let place ← d.locate parts
  if d.isDirectory place then return place else throw .notADirectory

/-! ## Reading and writing -/

/-- The text of a file. -/
def readText (d : Disk) (parts : List String) : Except DiskFault String := do
  match d.entry? (← d.locate parts) with
  | some (.text text) => return text
  | some .void => return ""
  | some (.database _) => throw .notText
  | some .directory | none => throw .directory

/-- The disk with a text in a file, whose directory has to be there. -/
def writeText (d : Disk) (parts : List String) (text : String) : Except DiskFault Disk := do
  let (slashes, back) := parts.reverse.span (· == "")
  match back with
  | [] => throw .directory
  | name :: front =>
    if hasZero name then throw .zeroByte
    let place ← d.locateDirectory front.reverse
    if ¬ slashes.isEmpty ∨ name = "." ∨ name = ".." then throw .directory
    if maxName < name.utf8ByteSize then throw .nameTooLong
    match d.entry? (place ++ [name]) with
    | some .directory => throw .directory
    | some .void => return d
    | some (.text _) | some (.database _) | none => return d.put (place ++ [name]) (.text text)

/-! ## Making directories -/

/-- The disk with a directory at the end of a path, given backwards. -/
def makeDirectory (d : Disk) : List String → Except DiskFault Disk
  | [] => .error .taken
  | name :: back => do
    if hasZero name then throw .zeroByte
    let place ← d.locateDirectory back.reverse
    if name = ".." then throw .taken
    if maxName < name.utf8ByteSize then throw .nameTooLong
    match d.entry? (place ++ [name]) with
    | some _ => throw .taken
    | none => return d.put (place ++ [name]) .directory

/-- The disk with a directory at the end of a path, given backwards, unless there is one; and what
kept it from being made. -/
def makeLast (d : Disk) (back : List String) : Disk × Option DiskFault :=
  match d.makeDirectory back, d.locateDirectory back.reverse with
  | .ok d, _ => (d, none)
  | .error _, .ok _ => (d, none)
  | .error fault, .error _ => (d, some fault)

/-- The disk with a directory at the end of a path, given backwards, and all on the way to it. -/
def makeAll (d : Disk) : List String → Disk × Option DiskFault
  | [] => (d, none)
  | name :: back =>
    match d.makeLast (name :: back) with
    | (d, some .missing) =>
      match d.makeAll back with
      | (d, some fault) => (d, some fault)
      | (d, none) => d.makeLast (name :: back)
    | (d, outcome) => (d, outcome)

/-! ## Databases -/

/-- The parts of a path that lead on. -/
def steps (path : String) : List String :=
  (Path.segments path).filter (· ≠ ".")

/-- The disk with the directory that the path of a database names. -/
def makeRoom (d : Disk) (path : String) : Disk × Option DiskFault :=
  let directory := (steps path).dropLast
  if d.leads directory then (d, none) else d.makeAll directory.reverse

/-- The database at a path, a new one if there is none or an empty file. -/
def openDatabase (d : Disk) (path : String) : Except Error Store :=
  let beforeZero := path.toList.takeWhile (· ≠ '\x00')
  let place := Path.place path
  let size := place.foldl (fun size name => size + name.utf8ByteSize + 1) 0
  if hasZero path then .error (.storage (.zeroByte (Text.byteLength beforeZero)))
  else if place.isEmpty ∨ maxDatabasePath < size ∨ ¬ d.isDirectory place.dropLast ∨
      (place.any fun name => maxName < name.utf8ByteSize) then
    .error (.storage (.unopenable path))
  else match d.entry? place with
    | some .directory => .error (.storage (.unopenable path))
    | some (.text text) => if text = "" then .ok {} else .error (.storage .notADatabase)
    | some (.database store) => .ok store
    | some .void => .error (.storage .unkept)
    | none => .ok {}

/-- The disk with a database at a path. -/
def putDatabase (d : Disk) (path : String) (store : Store) : Disk :=
  d.put (Path.place path) (.database store)

end Disk

end ContextIndex.Command
