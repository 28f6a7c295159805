import ContextIndex.Json.Value
import ContextIndex.Word

/-!
# Reading records out of JSON

A record is read by its declared fields.  It may be given as an object, where unknown fields are
skipped and no known field may occur twice, or as an array of its fields in declaration order, which
may not be longer than they are.  What a missing field means depends on how the field is declared:
required, optional, or with a default.  The difference between an object that leaves a field out and
an array that ends before it matters only for an optional field without a default.
-/

namespace ContextIndex.Json

/-- What a record says about one of its fields. -/
inductive Slot
  /-- The field has a value. -/
  | value (v : Json)
  /-- The object leaves the field out. -/
  | absent
  /-- The array ends before the field. -/
  | ended

/-- The slot of a field in an object, if the field occurs at most once. -/
def slotIn (fields : List (String × Json)) (name : String) : Option Slot :=
  match fields.filter fun f => f.1 == name with
  | [] => some .absent
  | [f] => some (.value f.2)
  | _ => none

/-- The slots of an array, one for each declared field. -/
def slotsOfItems : List String → List Json → Option (List Slot)
  | [], [] => some []
  | [], _ :: _ => none
  | _ :: names, [] => (slotsOfItems names []).map (.ended :: ·)
  | _ :: names, v :: vs => (slotsOfItems names vs).map (.value v :: ·)

/-- The slots of a record with the given fields. -/
def slots? (names : List String) : Json → Option (List Slot)
  | object fields => names.mapM (slotIn fields)
  | array items => slotsOfItems names items
  | _ => none

/-! ## Fields -/

/-- A field that has to be there. -/
def Slot.required {α : Type} (read : Json → Option α) : Slot → Option α
  | value v => read v
  | _ => none

/-- A field that may be null or left out of an object, but not cut off an array. -/
def Slot.optional {α : Type} (read : Json → Option α) : Slot → Option (Option α)
  | value null => some none
  | value v => (read v).map some
  | absent => some none
  | ended => none

/-- A field that may be null or missing in any way. -/
def Slot.optionalOrMissing {α : Type} (read : Json → Option α) : Slot → Option (Option α)
  | ended => some none
  | s => s.optional read

/-- A field with a default. -/
def Slot.withDefault {α : Type} (fallback : α) (read : Json → Option α) : Slot → Option α
  | value v => read v
  | _ => some fallback

/-! ## Values -/

/-- A text. -/
def text? : Json → Option String
  | string s => some s
  | _ => none

/-- A 64-bit quantity. -/
def word? : Json → Option Nat
  | nat n => if n < wordBound then some n else none
  | _ => none

/-- A truth value. -/
def bool? : Json → Option Bool
  | bool b => some b
  | _ => none

/-- A list. -/
def list? {α : Type} (read : Json → Option α) : Json → Option (List α)
  | array items => items.mapM read
  | _ => none

/-- An integer, as far as it is written with digits and a sign only. -/
def integer? : Json → Option Int
  | nat n => some n
  | number literal => literal.toInt?
  | _ => none

end ContextIndex.Json
