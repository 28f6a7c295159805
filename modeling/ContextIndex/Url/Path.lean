import ContextIndex.Path
import ContextIndex.Url.Encoding

/-!
# Paths of addresses

The path of an address is empty or starts with a slash.  Behind a path that ends in a slash a segment
is put down: a name is written there, a single dot stays where it is, and two dots lead out of the
last segment.  The letter of a drive is not left by two dots, and it opens the path of a file.
-/

namespace ContextIndex.Url

/-! ## Drives -/

/-- Whether a text is the letter of a drive, with a colon or a bar. -/
def isDrive : List Char → Bool
  | [letter, mark] => letter.isAlpha && (mark == ':' || mark == '|')
  | _ => false

/-- Whether a text is the letter of a drive, perhaps with something that is separated from it. -/
def startsWithDrive : List Char → Bool
  | letter :: mark :: rest =>
    isDrive [letter, mark] && rest.head?.all fun c => ['/', '\\', '?', '#'].contains c
  | _ => false

/-- Whether dropped characters follow the first colon of a text. -/
def isParted (cs : List Char) : Bool :=
  ((cs.dropWhile (· ≠ ':')).drop 1).head?.any isDropped

/-! ## Segments -/

/-- Whether an encoded segment stands for the place it is in. -/
def isHere (s : List Char) : Bool :=
  [".", "%2e"].contains (String.ofList (s.map Char.toLower))

/-- Whether an encoded segment leads out of the place it is in. -/
def isUp (s : List Char) : Bool :=
  ["..", ".%2e", "%2e.", "%2e%2e"].contains (String.ofList (s.map Char.toLower))

/-- What a segment does to a path. -/
inductive Step
  /-- It leads out of the last segment. -/
  | up
  /-- It stays. -/
  | here
  /-- It names a drive by its letter. -/
  | drive (letter : Char)
  /-- It is a name, encoded. -/
  | name (text : List Char)
deriving DecidableEq, Repr

/-- A segment where a drive may be named: a drive that is parted from the text behind it by dropped
characters is followed by a slash. -/
def driveStep (keeps : Char → Bool) (raw : List Char) : Option Step :=
  match clean raw with
  | [letter, mark] => if isDrive [letter, mark] then some (.drive letter) else none
  | letter :: ':' :: rest =>
    if letter.isAlpha && isParted raw then some (.name (letter :: ':' :: '/' :: encode keeps rest))
    else none
  | _ => none

/-- What a segment does, of which some characters are kept; `mayDrive` says whether a drive may be
named. -/
def Step.ofSegment (mayDrive : Bool) (keeps : Char → Bool) (raw : List Char) : Step :=
  match if mayDrive then driveStep keeps raw else none with
  | some step => step
  | none =>
    let s := encode keeps (clean raw)
    if isUp s then .up else if isHere s then .here else .name s

/-! ## Paths -/

/-- The path above the last segment of a path that ends in a slash. -/
def above (path : List Char) : List Char :=
  let (segment, front) := (path.reverse.drop 1).span (· ≠ '/')
  if front.isEmpty || startsWithDrive segment.reverse then path else front.reverse

/-- A path that ends in a slash, after a last segment. -/
def land (path : List Char) : Step → List Char
  | .up => above path
  | .here => path
  | .drive letter => path ++ [letter, ':']
  | .name s => path ++ s

/-- A path that ends in a slash, after a segment and a slash. -/
def pass (path : List Char) : Step → List Char
  | .up => above path
  | .here => path
  | .drive letter => path ++ [letter, ':', '/']
  | .name s => path ++ s ++ ['/']

/-- A path of a file or of something else, with the segments that follow it; whether they name a
drive. -/
def walk (ofFile : Bool) (path : List Char) : List (List Char) → List Char × Bool
  | [] => (path, false)
  | raw :: rest =>
    let step := Step.ofSegment (ofFile && path == ['/']) inPath raw
    let named := match step with
      | .drive _ => true
      | _ => false
    if rest.isEmpty then (land path step, named)
    else
      let (path, later) := walk ofFile (pass path step) rest
      (path, named || later)

/-- The path with a further segment.  Single and double dots add nothing. -/
def addSegment (ofFile special : Bool) (path : List Char) (s : String) : List Char :=
  if s = "." ∨ s = ".." then path
  else
    let path := if path = ['/'] then path else path ++ ['/']
    land path (Step.ofSegment (ofFile && path == ['/']) (inSegment special) s.toList)

/-- The path without a slash at its end, unless that is all. -/
def closed (path : List Char) : List Char :=
  if 1 < path.length ∧ path.getLast? = some '/' then path.dropLast else path

example : (walk false ['/'] (Path.pieces '/' "a/../b/.".toList)).1 = "/b/".toList := by
  decide +kernel
example : walk true ['/'] (Path.pieces '/' "C|/..".toList) = ("/C:/".toList, true) := by
  decide +kernel
example : addSegment false true "/a".toList "b/c" = "/a/b%2Fc".toList := by decide +kernel

end ContextIndex.Url
