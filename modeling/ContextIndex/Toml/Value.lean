import ContextIndex.Toml.Fault

/-!
# TOML values

A table knows how it was opened, since that decides who may still add to it: the keys of a table
that a header names, that a dotted key opens, or that stands between braces come from one place.
Numbers with a fraction, dates and times keep their text; they are checked when they are read and
never computed with.  Names and values know where they stand; a table that nothing but the ways of
keys names stands nowhere.
-/

namespace ContextIndex.Toml

/-- How a table came to be. -/
inductive Opening
  /-- A header names it. -/
  | header
  /-- A header names a table inside it. -/
  | implied
  /-- A dotted key leads through it. -/
  | dotted
  /-- It stands between braces. -/
  | inlined
deriving DecidableEq, Repr

/-- A name in a document. -/
structure Name where
  /-- The name. -/
  text : String
  /-- Where it stands. -/
  place : Stretch

end ContextIndex.Toml

namespace ContextIndex

/-- A TOML value. -/
inductive Toml
  | text (s : String)
  | integer (n : Int)
  /-- A number with a fraction or an exponent, an infinity, or no number. -/
  | float (literal : String)
  | boolean (b : Bool)
  /-- A date, a time, or both. -/
  | moment (literal : String)
  | array (items : List (Option Toml.Stretch × Toml))
  | table (opening : Toml.Opening) (fields : List (Toml.Name × Option Toml.Stretch × Toml))
  /-- Tables under one name, each with a header of its own. -/
  | tables (items : List (Option Toml.Stretch × List (Toml.Name × Option Toml.Stretch × Toml)))
deriving Inhabited

namespace Toml

/-- A value and where it stands. -/
abbrev Placed := Option Stretch × Toml

/-- The fields of a table, in the order of their first mention. -/
abbrev Fields := List (Name × Placed)

/-- The value under a name. -/
def Fields.find? (name : String) : Fields → Option Placed
  | [] => none
  | (k, v) :: fs => if k.text == name then some v else Fields.find? name fs

/-- The table with a value in the place of the one that a name has. -/
def Fields.replace (name : String) (v : Placed) : Fields → Fields
  | [] => []
  | (k, old) :: fs => if k.text == name then (k, v) :: fs else (k, old) :: Fields.replace name v fs

/-- The table without a name. -/
def Fields.remove (name : String) (fs : Fields) : Fields :=
  fs.filter fun f => f.1.text != name

/-- The kind of a value, in words. -/
def kindName : Toml → String
  | text _ => "string"
  | integer _ => "integer"
  | float _ => "float"
  | boolean _ => "boolean"
  | moment _ => "datetime"
  | array _ => "array"
  | table .inlined _ => "inline table"
  | table _ _ => "table"
  | tables _ => "array of tables"

end ContextIndex.Toml
