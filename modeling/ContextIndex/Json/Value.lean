/-!
# JSON values

A JSON value keeps the order of its fields and any field that occurs twice.  A natural number is a
value of its own; any other number keeps its text.  An escape may name half of a character beyond
the basic plane without the other half.  A string with such an escape has no text, and neither does
an object with such a field name.  They stand as `unpaired`: whoever skips the value may do so, and
nobody can read it.
-/

namespace ContextIndex

/-- A JSON value. -/
inductive Json
  | null
  | bool (b : Bool)
  /-- A number written with digits only. -/
  | nat (n : Nat)
  /-- Any other number, as it is written. -/
  | number (literal : String)
  | string (s : String)
  /-- A string without a text, or an object with a field name without a text. -/
  | unpaired
  | array (items : List Json)
  | object (fields : List (String × Json))
deriving Repr, Inhabited

namespace Json

/-- A text or null. -/
def ofText? : Option String → Json
  | none => null
  | some s => string s

/-- A list of texts. -/
def ofTexts (ss : List String) : Json :=
  array (ss.map string)

/-- The value of the first field of a name. -/
def get? (name : String) : Json → Option Json
  | object fields => fields.lookup name
  | _ => none

end Json

end ContextIndex
