import ContextIndex.Url.Basic
import ContextIndex.Url.Host

/-!
# Reading addresses

An address has to say its scheme.  Where hosts are looked up a host follows, whatever the number of
slashes in between, and a backslash counts as a slash; any other address has a host only after two
slashes, and one of no special kind that has no slash at all has a fixed text for its path.
-/

namespace ContextIndex.Url

/-! ## Pieces of text -/

/-- A text without control characters and blanks at its ends. -/
def trimmed (cs : List Char) : List Char :=
  let isEdge (c : Char) : Bool := decide (c.toNat ≤ 0x20)
  (((cs.dropWhile isEdge).reverse).dropWhile isEdge).reverse

/-- Whether a character separates segments. -/
def isSlash (special : Bool) (c : Char) : Bool :=
  c == '/' || (special && c == '\\')

/-- Whether a character ends the host. -/
def endsHost (special : Bool) (c : Char) : Bool :=
  isSlash special c || c == '?' || c == '#'

/-- What follows a slash at the start of a text. -/
def afterSlash? (special : Bool) (cs : List Char) : Option (List Char) :=
  match cs.dropWhile isDropped with
  | c :: rest => if isSlash special c then some rest else none
  | [] => none

/-- A text before and after the last occurrence of a character. -/
def splitLast (mark : Char) (cs : List Char) : Option (List Char × List Char) :=
  match cs.reverse.span (· ≠ mark) with
  | (_, []) => none
  | (back, _ :: front) => some (front.reverse, back.reverse)

/-- A text before and after the first colon outside brackets. -/
def splitPort (inBrackets : Bool) : List Char → List Char × Option (List Char)
  | [] => ([], none)
  | c :: cs =>
    if c = ':' ∧ inBrackets = false then ([], some cs)
    else
      let (host, port) := splitPort (if c = '[' then true else if c = ']' then false else inBrackets) cs
      (c :: host, port)

/-! ## Scheme and host -/

/-- Whether a character may stand in a scheme after its first letter. -/
def inScheme (c : Char) : Bool :=
  c.isAlphanum || c == '+' || c == '-' || c == '.'

/-- The scheme, in small letters, and what follows its colon. -/
def splitScheme (cs : List Char) : Option (String × List Char) :=
  let (front, rest) := cs.span (· ≠ ':')
  let scheme := clean front
  if scheme.head?.any Char.isAlpha && scheme.all inScheme && !rest.isEmpty then
    some (String.ofList (scheme.map Char.toLower), rest.drop 1)
  else none

/-- The name and the password that stand before a host, if they are not both empty. -/
def Credentials.ofChars? (cs : List Char) : Option Credentials :=
  let (name, rest) := cs.span (· ≠ ':')
  let name := encode inCredentials name
  let password := encode inCredentials (rest.drop 1)
  if name.isEmpty && password.isEmpty then none
  else some ⟨name, if password.isEmpty then none else some password⟩

/-- The port of a scheme unless told otherwise. -/
def defaultPort? (scheme : String) : Option Nat :=
  match scheme with
  | "http" | "ws" => some 80
  | "https" | "wss" => some 443
  | "ftp" => some 21
  | _ => none

/-- The port that a text tells, unless it is the one of the scheme. -/
def portOf (scheme : String) (cs : List Char) : Except Fault (Option Nat) :=
  if cs.isEmpty then .ok none
  else match Text.numeral? 10 cs with
    | none => .error .badPort
    | some n =>
      if 65535 < n then .error .badPort
      else .ok (if defaultPort? scheme = some n then none else some n)

/-- The host of an address that is no file, and what follows it. -/
def authorityOf (scheme : String) (cs : List Char) : Except Fault (Authority × List Char) := do
  let kind := Kind.ofScheme scheme
  let (front, rest) := cs.span fun c => !endsHost kind.isSpecial c
  let (asking, place) := match splitLast '@' front with
    | none => (none, front)
    | some (asking, place) => (some (clean asking), place)
  if asking = some [] ∧ (clean place).isEmpty ∧ ¬ rest.isEmpty then throw .emptyHost
  let credentials := asking.bind Credentials.ofChars?
  let (name, port) := splitPort false place
  let name := clean name
  if name.isEmpty && (kind == .network || port.isSome || credentials.isSome) then throw .emptyHost
  let host ← if kind = .network then domainHost name else keptHost name
  let (digits, more) := (port.getD []).span (· ≠ '\\')
  return (⟨credentials, host, ← portOf scheme (clean digits)⟩, more ++ rest)

/-! ## Path, query and fragment -/

/-- The path that a text writes, and whether it names the drive of a file. -/
def pathOf (kind : Kind) (cs : List Char) : List Char × Bool :=
  if (clean cs).isEmpty && !kind.isSpecial then ([], false)
  else
    let pieces := Path.pieces '/' (cs.map fun c => if isSlash kind.isSpecial c then '/' else c)
    let pieces := match pieces with
      | first :: second :: rest =>
        if (clean first).isEmpty then second :: rest else first :: second :: rest
      | _ => pieces
    let (path, drive) := walk (kind == .file) ['/'] pieces
    (if kind = .file then '/' :: path.dropWhile (· = '/') else path, drive)

/-- The query and the fragment of a text that starts with the mark of one of them. -/
def queryAndFragment (special : Bool) (cs : List Char) :
    Option (List Char) × Option (List Char) :=
  let (front, rest) := cs.span (· ≠ '#')
  let query := match front with
    | '?' :: q => some (encode (inQuery special) (clean q))
    | _ => none
  let fragment := match rest with
    | '#' :: f => some (encode inFragment (clean f))
    | _ => none
  (query, fragment)

/-- A text before the query and the fragment, and what they are. -/
def splitTail (special : Bool) (cs : List Char) :
    List Char × Option (List Char) × Option (List Char) :=
  let (path, tail) := cs.span fun c => c ≠ '?' ∧ c ≠ '#'
  (path, queryAndFragment special tail)

/-! ## Addresses -/

/-- The address with a scheme, a host and the rest of the text. -/
def withRest (scheme : String) (authority : Option Authority) (cs : List Char) : Url :=
  let kind := Kind.ofScheme scheme
  let (path, query, fragment) := splitTail kind.isSpecial cs
  let (path, _) := pathOf kind path
  ⟨scheme, authority, .path (authority.isNone && "//".toList.isPrefixOf path) path, query, fragment⟩

/-- The address with a fixed text for its path. -/
def withFixed (scheme : String) (cs : List Char) : Url :=
  let (path, query, fragment) := splitTail false cs
  let keeps (c : Char) : Bool := decide (0x20 ≤ c.toNat) && decide (c.toNat < 0x7F)
  ⟨scheme, none, .fixed (encode keeps (clean path)), query, fragment⟩

/-- The address of a file on a host.  The host is left out if the path names a drive. -/
def onHost (host cs : List Char) : Url :=
  let (path, query, fragment) := splitTail true cs
  let (path, drive) := pathOf .file path
  ⟨"file", some ⟨none, if drive then [] else host, none⟩, .path false path, query, fragment⟩

/-- The address of a file after two slashes: a drive is no host, and this machine needs none. -/
def fileOnHost (cs : List Char) : Except Fault Url := do
  let (front, rest) := cs.span fun c => !endsHost true c
  let name := clean front
  if isDrive name then return onHost [] cs
  else
    let host ← if name.isEmpty then pure [] else domainHost name
    return onHost (if host = "localhost".toList then [] else host) rest

/-- The address that a text writes. -/
def parse (s : String) : Except Fault Url :=
  match splitScheme (trimmed s.toList) with
  | none => .error .relative
  | some (scheme, cs) =>
    match Kind.ofScheme scheme with
    | .network => do
      let (authority, rest) ← authorityOf scheme (cs.dropWhile fun c => isSlash true c || isDropped c)
      return withRest scheme (some authority) rest
    | .file =>
      match (afterSlash? true cs).bind (afterSlash? true) with
      | some rest => fileOnHost rest
      | none => .ok (onHost [] cs)
    | .other =>
      match afterSlash? false cs with
      | none => .ok (withFixed scheme cs)
      | some rest =>
        match afterSlash? false rest with
        | none => .ok (withRest scheme none cs)
        | some rest => do
          let (authority, rest) ← authorityOf scheme rest
          return withRest scheme (some authority) rest

end ContextIndex.Url
