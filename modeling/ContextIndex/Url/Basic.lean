import ContextIndex.Url.Path

/-!
# Addresses

An address names a scheme, often a host, and a path there.  The path can be extended by segments and
the query by pairs, which are encoded as they are added; an address without a host may have a fixed
text in the place of its path.
-/

namespace ContextIndex

namespace Url

/-- What the scheme says about the rest of an address. -/
inductive Kind
  /-- The host is looked up. -/
  | network
  /-- The address of a file. -/
  | file
  /-- Nothing. -/
  | other
deriving DecidableEq, Repr

/-- What a scheme says about the rest of an address. -/
def Kind.ofScheme (scheme : String) : Kind :=
  if ["http", "https", "ws", "wss", "ftp"].contains scheme then network
  else if scheme = "file" then file
  else other

/-- Whether a scheme has rules of its own. -/
def Kind.isSpecial (k : Kind) : Bool :=
  k != other

/-- Where on the host an address leads. -/
inductive Route
  /-- A text that cannot be extended. -/
  | fixed (text : List Char)
  /-- A path.  It is guarded if a dot stands before it, without which two slashes at its start would
  announce a host. -/
  | path (guarded : Bool) (text : List Char)
deriving DecidableEq, Repr

/-- Who asks, as it stands before the host. -/
structure Credentials where
  /-- The name. -/
  name : List Char
  /-- The password. -/
  password : Option (List Char)
deriving DecidableEq, Repr

/-- The host of an address. -/
structure Authority where
  /-- Who asks. -/
  credentials : Option Credentials
  /-- The name of the host. -/
  host : List Char
  /-- The port, unless it is the one of the scheme. -/
  port : Option Nat
deriving DecidableEq, Repr

end Url

/-- An address; each part is encoded. -/
structure Url where
  /-- The scheme, in small letters. -/
  scheme : String
  /-- The host. -/
  authority : Option Url.Authority
  /-- Where on the host. -/
  route : Url.Route
  /-- The query. -/
  query : Option (List Char)
  /-- The fragment. -/
  fragment : Option (List Char)
deriving DecidableEq, Repr

namespace Url

/-- What the scheme of an address says about the rest. -/
def kind (u : Url) : Kind :=
  Kind.ofScheme u.scheme

/-! ## Text -/

/-- A part after a mark, if there is one. -/
def marked (mark : Char) : Option (List Char) → List Char
  | none => []
  | some cs => mark :: cs

/-- What can be extended of where an address leads. -/
def Route.chars : Route → List Char
  | fixed text => text
  | path _ text => text

/-- What keeps the path from being read as a host. -/
def Route.guard : Route → List Char
  | path true _ => ['/', '.']
  | _ => []

/-- The path and query, as a request names them. -/
def target (u : Url) : List Char :=
  u.route.chars ++ marked '?' u.query

/-- A name and a password as text. -/
def Credentials.chars (c : Credentials) : List Char :=
  c.name ++ marked ':' c.password ++ ['@']

/-- The host with what is around it, as text. -/
def Authority.chars (a : Authority) : List Char :=
  '/' :: '/' :: a.credentials.elim [] Credentials.chars ++ a.host ++
    marked ':' (a.port.map fun n => (toString n).toList)

/-- An address as text. -/
def chars (u : Url) : List Char :=
  u.scheme.toList ++ ':' :: u.authority.elim [] Authority.chars ++ u.route.guard ++ u.target ++
    marked '#' u.fragment

/-- An address as a string. -/
def text (u : Url) : String :=
  String.ofList u.chars

/-- The path as a string. -/
def path (u : Url) : String :=
  String.ofList u.route.chars

/-! ## Sending requests -/

/-- Whether a name and a password can be sent apart from the address. -/
def Credentials.isReadable (c : Credentials) : Bool :=
  Url.isReadable c.name && (!c.name.isEmpty || c.password.any Url.isReadable)

/-- A host without a name and a password that can be sent apart from it. -/
def Authority.withoutReadable (a : Authority) : Authority :=
  { a with credentials := a.credentials.filter fun c => !c.isReadable }

/-- The address without a name and a password that can be sent apart from it. -/
def requested (u : Url) : Url :=
  { u with authority := u.authority.map Authority.withoutReadable }

/-- Whether an address names a host. -/
def hasHost (u : Url) : Bool :=
  u.authority.any fun a => !a.host.isEmpty

/-- The most bytes of an address to which a request goes. -/
def maxRequested : Nat := 65534

/-- Whether a request can be sent to an address. -/
def isRequestable (u : Url) : Bool :=
  (u.scheme == "http" || u.scheme == "https") && decide (u.chars.length ≤ maxRequested) &&
    u.authority.any fun a => !a.host.any fun c => ['"', '\x60', '\x7b', '\x7d'].contains c

/-! ## Adding to an address -/

/-- The address of a place below another, if the other can be extended. -/
def extend? (u : Url) (segments : List String) : Option Url :=
  match u.route with
  | .fixed _ => none
  | .path guarded text =>
    some { u with
      route := .path guarded (segments.foldl (addSegment (u.kind == .file) u.kind.isSpecial)
        (closed text)) }

/-- A pair of a query. -/
def pairText (name value : String) : List Char :=
  formText name.toList ++ '=' :: formText value.toList

/-- The address with a further pair in its query. -/
def addPair (u : Url) (name value : String) : Url :=
  let pair := pairText name value
  { u with query := some (match u.query with
      | none | some [] => pair
      | some q => q ++ '&' :: pair) }

end Url

end ContextIndex
