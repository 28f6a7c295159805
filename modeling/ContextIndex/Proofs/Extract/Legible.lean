import Mathlib
import ContextIndex.Proofs.Extract.Quoted

/-!
# Legible entries

An entry of a list of symbols is read if none of its fields occurs twice and each is null or of its
type, with lines counted by 64-bit quantities (`Legible`, `legible_iff`).  Fields it leaves out do
not matter for that, nor does what a text says.  If every entry is legible, the list declares what
the entries declare, and one that stands for no declaration only drops itself.  If one entry is not,
the list declares nothing at all.

So lists put one after another declare what they declare apart if all their entries are legible, and
otherwise only where there is nothing to lose (`declarationsIn_append`).
-/

namespace ContextIndex.Extract.Model

open Json (slots? slotIn slotsOfItems text? word? Slot)

/-! ## Types of fields -/

/-- The type of a field of an entry. -/
inductive FieldType
  | text
  | line
deriving DecidableEq, Repr

/-- What a field of this type may be given as. -/
def FieldType.Allows : FieldType → Json → Prop
  | _, .null => True
  | text, .string _ => True
  | line, .nat n => n < wordBound
  | _, _ => False

/-- The fields of an entry and their types. -/
def entryFields : List (String × FieldType) :=
  [("name", .text), ("kind", .text), ("startLine", .line), ("endLine", .line), ("signature", .text)]

/-- A record conforms to a table of fields: an object has none of them twice and each with a value
of its type, and an array has a value of its type for each of them. -/
def Conforms (table : List (String × FieldType)) : Json → Prop
  | .object fields => ∀ f ∈ table, (fields.filter fun x => x.1 == f.1).length ≤ 1 ∧
      ∀ x ∈ fields, x.1 = f.1 → f.2.Allows x.2
  | .array items => List.Forall₂ (fun f v => f.2.Allows v) table items
  | _ => False

/-- An entry that is read, whether or not it stands for a declaration. -/
def Legible (v : Json) : Prop := Conforms entryFields v

/-- Whether a slot is read as a field of this type. -/
def FieldType.Reads : FieldType → Slot → Prop
  | text, s => (s.optional text?).isSome = true
  | line, s => (s.optional word?).isSome = true

section Fields

variable {t : FieldType}

@[simp] theorem FieldType.reads_value {v : Json} : t.Reads (.value v) ↔ t.Allows v := by
  cases t with
  | text => cases v <;> simp [Reads, Allows, Slot.optional, text?]
  | line =>
    cases v with
    | nat n => simp [Reads, Allows, Slot.optional, word?]
    | _ => simp [Reads, Allows, Slot.optional, word?]

@[simp] theorem FieldType.reads_absent : t.Reads .absent := by
  cases t <;> rfl

@[simp] theorem FieldType.not_reads_ended : ¬t.Reads .ended := by
  cases t <;> exact Bool.false_ne_true

theorem reads_slotIn {fields : List (String × Json)} {name : String} :
    (∃ s, slotIn fields name = some s ∧ t.Reads s) ↔
      (fields.filter fun x => x.1 == name).length ≤ 1 ∧
        ∀ x ∈ fields, x.1 = name → t.Allows x.2 := by
  have hmem (x : String × Json) :
      x ∈ (fields.filter fun x => x.1 == name) ↔ x ∈ fields ∧ x.1 = name := by simp
  unfold slotIn
  split
  · next hnone =>
    rw [hnone] at hmem ⊢
    simp only [Option.some.injEq, exists_eq_left', FieldType.reads_absent, true_iff]
    exact ⟨Nat.zero_le 1, fun x hx hname => nomatch (hmem x).mpr ⟨hx, hname⟩⟩
  · next f hone =>
    rw [hone] at hmem ⊢
    simp only [Option.some.injEq, exists_eq_left', FieldType.reads_value]
    constructor
    · intro hf
      refine ⟨le_rfl, fun x hx hname => ?_⟩
      obtain rfl : x = f := List.mem_singleton.mp ((hmem x).mpr ⟨hx, hname⟩)
      exact hf
    · intro ⟨_, hall⟩
      obtain ⟨hf, hname⟩ := (hmem f).mp (List.mem_singleton_self f)
      exact hall f hf hname
  · next hzero hone =>
    simp only [reduceCtorEq, false_and, exists_false, false_iff, not_and]
    intro hle
    obtain hlength | hlength := Nat.le_one_iff_eq_zero_or_eq_one.mp hle
    · exact absurd (List.length_eq_zero_iff.mp hlength) hzero
    · obtain ⟨f, hf⟩ := List.length_eq_one_iff.mp hlength
      exact absurd hf (hone f)

end Fields

/-! ## Records -/

section Records

variable {table : List (String × FieldType)}

/-- A record is read field by field. -/
theorem conforms_iff {v : Json} : Conforms table v ↔
    ∃ slots, slots? (table.map Prod.fst) v = some slots ∧
      List.Forall₂ (fun f s => f.2.Reads s) table slots := by
  cases v with
  | object fields =>
    simp only [Conforms, slots?, mapM_eq_some_iff_forall₂, List.forall₂_map_left_iff,
      ← reads_slotIn]
    induction table with
    | nil => simp
    | cons f table ih =>
      rw [List.forall_mem_cons, ih]
      constructor
      · rintro ⟨⟨s, hs, hreads⟩, slots, hslots, hall⟩
        exact ⟨s :: slots, .cons hs hslots, .cons hreads hall⟩
      · rintro ⟨slots, hslots, hall⟩
        cases hall with
        | cons hreads hall =>
          cases hslots with
          | cons hs hslots => exact ⟨⟨_, hs, hreads⟩, _, hslots, hall⟩
  | array items =>
    rw [Conforms, slots?]
    induction table generalizing items with
    | nil =>
      cases items with
      | nil => simp [slotsOfItems]
      | cons v items => simp [slotsOfItems]
    | cons f table ih =>
      cases items with
      | nil => simp [slotsOfItems]
      | cons v items =>
        rw [List.forall₂_cons, ih]
        simp only [List.map_cons, slotsOfItems, Option.map_eq_some_iff]
        constructor
        · rintro ⟨hv, slots, hslots, hall⟩
          exact ⟨_, ⟨slots, hslots, rfl⟩, .cons (FieldType.reads_value.mpr hv) hall⟩
        · rintro ⟨_, ⟨slots, hslots, rfl⟩, hall⟩
          obtain ⟨hv, hall⟩ := List.forall₂_cons.mp hall
          exact ⟨FieldType.reads_value.mp hv, slots, hslots, hall⟩
  | _ => simp [Conforms, slots?]

end Records

/-- An entry is read if each of its fields is. -/
theorem legible_iff {v : Json} : Legible v ↔ ∃ e, entry? v = some e := by
  rw [Legible, conforms_iff]
  simp only [Option.bind_eq_bind, entry?, Option.bind_eq_some_iff]
  constructor
  · rintro ⟨slots, hslots, hall⟩
    obtain _ | ⟨hname, _ | ⟨hkind, _ | ⟨hfirst, _ | ⟨hlast, _ | ⟨hsignature, _ | _⟩⟩⟩⟩⟩ := hall
    obtain ⟨name, hname⟩ := Option.isSome_iff_exists.mp hname
    obtain ⟨kind, hkind⟩ := Option.isSome_iff_exists.mp hkind
    obtain ⟨first, hfirst⟩ := Option.isSome_iff_exists.mp hfirst
    obtain ⟨last, hlast⟩ := Option.isSome_iff_exists.mp hlast
    obtain ⟨signature, hsignature⟩ := Option.isSome_iff_exists.mp hsignature
    exact ⟨⟨name, kind, first, last, signature⟩, _, hslots, by
      simp [hname, hkind, hfirst, hlast, hsignature]⟩
  · rintro ⟨e, slots, hslots, h⟩
    refine ⟨slots, hslots, ?_⟩
    split at h
    · simp only [Option.bind_eq_some_iff] at h
      obtain ⟨_, hname, _, hkind, _, hfirst, _, hlast, _, hsignature, -⟩ := h
      exact .cons (Option.isSome_of_eq_some hname) (.cons (Option.isSome_of_eq_some hkind)
        (.cons (Option.isSome_of_eq_some hfirst) (.cons (Option.isSome_of_eq_some hlast)
          (.cons (Option.isSome_of_eq_some hsignature) .nil))))
    · cases h

/-! ## Lists of symbols -/

/-- What an item of a list declares, if it is read. -/
def declarationOf? (v : Json) : Option Declaration :=
  entry? v >>= Entry.declaration?

/-- A reply in JSON is an object that lists these items. -/
def Lists (reply : List Char) (items : List Json) : Prop :=
  Json.parseChars? (Text.trim reply) = some (.object [("symbols", .array items)])

section Replies

variable {reply whole left right : List Char} {items a b : List Json}

theorem filterMap_declaration? {es : List Entry} (h : items.mapM entry? = some es) :
    es.filterMap Entry.declaration? = items.filterMap declarationOf? := by
  have hall := mapM_eq_some_iff_forall₂.mp h
  clear h
  induction hall with
  | nil => rfl
  | @cons v e vs es he _ ih =>
    rw [List.filterMap_cons, List.filterMap_cons, ih, declarationOf?, he, Option.bind_eq_bind,
      Option.bind_some]

theorem Lists.declarationsIn (h : Lists reply items) : declarationsIn reply =
    ((items.mapM entry?).getD []).filterMap Entry.declaration? :=
  declarationsIn_of_parseChars? h

theorem Lists.declarationsIn_of_legible (h : Lists reply items) (hall : ∀ v ∈ items, Legible v) :
    Model.declarationsIn reply = items.filterMap declarationOf? := by
  obtain ⟨es, hes⟩ := exists_mapM_eq_some.mpr fun v hv => legible_iff.mp (hall v hv)
  rw [h.declarationsIn, hes, Option.getD_some, filterMap_declaration? hes]

/-- One entry that is not legible spoils the list. -/
theorem Lists.declarationsIn_eq_nil (h : Lists reply items) (hbad : ∃ v ∈ items, ¬Legible v) :
    Model.declarationsIn reply = [] := by
  have hunread : items.mapM entry? = none := by
    obtain ⟨v, hv, hlegible⟩ := hbad
    refine Option.eq_none_iff_forall_ne_some.mpr fun es hes => hlegible ?_
    exact legible_iff.mpr (exists_mapM_eq_some.mp ⟨es, hes⟩ v hv)
  rw [h.declarationsIn, hunread]
  rfl

/-- A list of symbols declares what its entries declare, if they are all legible, and else nothing.
So two lists in a row declare what they declare apart if all entries are legible, and otherwise only
if neither declares anything. -/
theorem declarationsIn_append (hwhole : Lists whole (a ++ b)) (hleft : Lists left a)
    (hright : Lists right b) :
    ((∀ v ∈ a ++ b, Legible v) → declarationsIn whole = (a ++ b).filterMap declarationOf?) ∧
    ((∃ v ∈ a ++ b, ¬Legible v) → declarationsIn whole = []) ∧
    (declarationsIn whole = declarationsIn left ++ declarationsIn right ↔
      (∀ v ∈ a ++ b, Legible v) ∨ declarationsIn left = [] ∧ declarationsIn right = []) := by
  refine ⟨hwhole.declarationsIn_of_legible, hwhole.declarationsIn_eq_nil, ?_⟩
  by_cases hall : ∀ v ∈ a ++ b, Legible v
  · have hbefore : ∀ v ∈ a, Legible v := fun v hv => hall v (List.mem_append_left b hv)
    have hbehind : ∀ v ∈ b, Legible v := fun v hv => hall v (List.mem_append_right a hv)
    rw [hwhole.declarationsIn_of_legible hall, hleft.declarationsIn_of_legible hbefore,
      hright.declarationsIn_of_legible hbehind, List.filterMap_append]
    exact ⟨fun _ => .inl hall, fun _ => rfl⟩
  · have hbad : ∃ v ∈ a ++ b, ¬Legible v := by simpa only [not_forall, exists_prop] using hall
    rw [hwhole.declarationsIn_eq_nil hbad, eq_comm, List.append_eq_nil_iff]
    exact (or_iff_right hall).symm

end Replies

/-! ## One good entry and another -/

/-- A reply that lists one entry and perhaps another. -/
def listing (entries : String) : List Char :=
  ("\x7b\"symbols\": [" ++ entries ++ "]\x7d").toList

/-- An entry that stands for a declaration. -/
def goodEntry : String :=
  "\x7b\"name\": \"a\", \"kind\": \"function\", \"startLine\": 1\x7d"

/-- An entry without a name and a line. -/
def bareEntry : String :=
  "\x7b\"kind\": \"class\"\x7d"

/-- An entry that gives its line as a string. -/
def mistypedEntry : String :=
  "\x7b\"name\": \"b\", \"kind\": \"function\", \"startLine\": \"2\"\x7d"

theorem lists_good : Lists (listing goodEntry)
    [.object [("name", .string "a"), ("kind", .string "function"), ("startLine", .nat 1)]] := by
  unfold Lists
  cbv

theorem declarationsIn_append_bare :
    declarationsIn (listing (goodEntry ++ ", " ++ bareEntry)) =
        declarationsIn (listing goodEntry) ++ declarationsIn (listing bareEntry) ∧
      declarationsIn (listing goodEntry) = [⟨"a", .function, 1, 1, none, none⟩] ∧
      declarationsIn (listing bareEntry) = [] := by
  have hwhole : Lists (listing (goodEntry ++ ", " ++ bareEntry))
      ([.object [("name", .string "a"), ("kind", .string "function"), ("startLine", .nat 1)]] ++
        [.object [("kind", .string "class")]]) := by
    unfold Lists
    cbv
  have hright : Lists (listing bareEntry) [.object [("kind", .string "class")]] := by
    unfold Lists
    cbv
  refine ⟨(declarationsIn_append hwhole lists_good hright).2.2.mpr (.inl ?_), ?_, ?_⟩
  · simp only [legible_iff, ← Option.isSome_iff_exists]
    decide +kernel
  · cbv
  · cbv

/-- An entry that gives its line as a string takes the other one with it. -/
theorem declarationsIn_append_mistyped :
    declarationsIn (listing (goodEntry ++ ", " ++ mistypedEntry)) = [] ∧
      declarationsIn (listing goodEntry) ++ declarationsIn (listing mistypedEntry) =
        [⟨"a", .function, 1, 1, none, none⟩] := by
  refine ⟨?_, ?_⟩
  · cbv
  · cbv

end ContextIndex.Extract.Model
