import ContextIndex.Decimal.Shortest
import ContextIndex.Toml.Number

/-!
# Reading records out of TOML

A record is read by its declared fields, each of which may be missing.  It may be given as a table,
where unknown names are skipped and the others are read in the order of the document, or as an array
of its fields in declaration order, where what follows them is skipped.  A date or a time counts as
a table of unknown names.

A value that is not what is asked for is a misfit; it lies where the value stands, or else where the
value around it or its name does.
-/

namespace ContextIndex.Toml

/-- What keeps a value from being what is asked for. -/
structure Misfit where
  /-- Why it is not. -/
  cause : Cause
  /-- Where, if that is known. -/
  place : Option Stretch

/-- A misfit that lies at a place unless its own is known. -/
def Misfit.at (place : Option Stretch) (m : Misfit) : Misfit :=
  { m with place := m.place.or place }

/-- The text of a number with a fraction: all its digits, and one at least behind the point. -/
def floatText (literal : String) : String :=
  let cs := literal.toList.filter (· ≠ '_')
  let (negative, cs) := splitSign cs
  let sign := if negative then "-" else ""
  if cs = "inf".toList then sign ++ "inf"
  else if cs = "nan".toList then "NaN"
  else
    match takeDecimal cs with
    | .error _ => literal
    | .ok ((_, whole), rest) =>
      match takeScale rest with
      | .error _ => literal
      | .ok ((fraction, exponent), _) =>
        let digits := whole ++ fraction
        let exponent := exponent - fraction.length
        if overflows digits exponent then sign ++ "inf"
        else sign ++ Decimal.plainText ((Text.numeral? 10 digits).getD 0) exponent

/-- What a value is found to be. -/
def found : Toml → Found
  | text s => .text s
  | integer n => .integer n
  | float literal => .float (floatText literal)
  | boolean b => .boolean b
  | moment _ => .table
  | array _ => .list
  | table _ _ => .table
  | tables _ => .list

/-- A value of the wrong type. -/
def mistyped {α : Type} (v : Placed) (expected : String) : Except Misfit α :=
  .error ⟨.wrongType (found v.2) expected, v.1⟩

/-- A text. -/
def asText : Placed → Except Misfit String
  | (_, text s) => .ok s
  | v => mistyped v "a string"

/-- A 64-bit quantity, which `expected` names. -/
def asWord (expected : String) : Placed → Except Misfit Nat
  | (place, integer n) =>
    if 0 ≤ n then .ok n.toNat else .error ⟨.wrongValue n expected, place⟩
  | v => mistyped v expected

/-- What stands for nothing under a word. -/
def asNothing : Placed → Except Misfit Unit
  | (_, table _ []) => .ok ()
  | (_, array []) => .ok ()
  | (place, table _ _) => .error ⟨.fullTable, place⟩
  | (place, array _) => .error ⟨.fullArray, place⟩
  | (place, tables _) => .error ⟨.fullArray, place⟩
  | (place, v) => .error ⟨.noTable (kindName v), place⟩

/-- One of several words: the word as a text, or as the only name of a table, with nothing under
it. -/
def asChoice {α : Type} (ofWord? : String → Option α) (choices : String) (v : Placed) :
    Except Misfit α :=
  let word (s : String) (place : Option Stretch) : Except Misfit α :=
    match ofWord? s with
    | some a => .ok a
    | none => .error ⟨.unknownWord s choices, place⟩
  match v with
  | (place, text s) => word s place
  | (place, table _ []) => .error ⟨.emptyWord, place⟩
  | (place, table _ [(name, inner)]) => do
    let a ← word name.text (some name.place)
    (asNothing inner).mapError (Misfit.at place)
    return a
  | (place, table _ _) => .error ⟨.severalWords, place⟩
  | (place, _) => .error ⟨.noWord, place⟩

/-! ## Records -/

/-- The fields of a record in declaration order: the name of each and how it is read into what has
been read so far. -/
abbrev Record (α : Type) := List (String × (Placed → α → Except Misfit α))

/-- What a field of a table adds to a record. -/
def readField {α : Type} (r : Record α) (a : α) (field : Name × Placed) : Except Misfit α :=
  match r.lookup field.1.text with
  | none => .ok a
  | some read => (read field.2 a).mapError (Misfit.at (field.2.1.or (some field.1.place)))

/-- A record read out of the fields of a table. -/
def ofFields {α : Type} (r : Record α) (fallback : α) (fields : Fields) : Except Misfit α :=
  fields.foldlM (readField r) fallback

/-- A record read out of the items of an array. -/
def ofItems {α : Type} : Record α → α → List Placed → Except Misfit α
  | [], a, _ => .ok a
  | _, a, [] => .ok a
  | (_, read) :: r, a, v :: vs => do ofItems r (← (read v a).mapError (Misfit.at v.1)) vs

/-- A record under a name, where what is missing has a fallback. -/
def asRecord {α : Type} (expected : String) (r : Record α) (fallback : α) (v : Placed) :
    Except Misfit α :=
  (match v with
    | (_, table _ fields) => ofFields r fallback fields
    | (_, array items) => ofItems r fallback items
    | (_, tables items) => ofItems r fallback (items.map fun (at?, fs) => (at?, table .header fs))
    | (_, moment _) => .ok fallback
    | v => mistyped v expected).mapError (Misfit.at v.1)

end ContextIndex.Toml
