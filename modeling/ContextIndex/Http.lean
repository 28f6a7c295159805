/-!
# Requests and responses

What is sent to a server and what comes back.  A transport is whatever carries a request there; it
may come back with nothing, if the server cannot be reached.
-/

namespace ContextIndex.Http

/-- What a request does. -/
inductive Method
  | get
  | post
deriving DecidableEq, Repr

/-- The name of a method. -/
def Method.label : Method → String
  | get => "GET"
  | post => "POST"

/-- A request. -/
structure Request where
  /-- What it does. -/
  method : Method
  /-- Where it goes, as text. -/
  address : String
  /-- What it asks for there: path and query. -/
  target : String
  /-- Its headers, by names in small letters. -/
  headers : List (String × String)
  /-- What it carries. -/
  body : Option String := none
deriving DecidableEq, Repr

/-- A response. -/
structure Response where
  /-- The status code. -/
  status : Nat
  /-- What it carries. -/
  body : String
deriving DecidableEq, Repr

/-- Whether the server did what it was asked for. -/
def Response.succeeded (r : Response) : Bool :=
  decide (200 ≤ r.status) && decide (r.status < 300)

/-- A way to a server. -/
abbrev Transport := Request → Option Response

/-- The way to no server. -/
def unreachable : Transport := fun _ => none

/-- The header with a token that is known to the server. -/
def bearer (token : String) : String × String :=
  ("authorization", "Bearer " ++ token)

/-- Whether a header may hold a text: no control characters but tabs. -/
def isHeaderText (s : String) : Bool :=
  s.toList.all fun c => c == '\t' || (decide (0x20 ≤ c.toNat) && c != '\x7f')

end ContextIndex.Http
