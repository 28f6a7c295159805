import Mathlib
import ContextIndex.Json.Decode
import ContextIndex.Proofs.Lists

/-!
# Values inside records

What a field of a record is read from is a part of the record (`part_of_slots?`), and so is every
item of a list.  So a string that is found in a field occurs in the record (`Within`).
-/

namespace ContextIndex.Json

/-! ## Parts -/

/-- A string occurs in a value, as the value itself or further inside; names of fields do not
count. -/
inductive Within (s : String) : Json → Prop
  | here : Within s (.string s)
  | item {v : Json} {vs : List Json} (hv : v ∈ vs) (h : Within s v) : Within s (.array vs)
  | field {f : String × Json} {fs : List (String × Json)} (hf : f ∈ fs) (h : Within s f.2) :
      Within s (.object fs)

/-- A value that is an item of an array or the value of a field of an object. -/
inductive Part (v : Json) : Json → Prop
  | item {vs : List Json} (hv : v ∈ vs) : Part v (.array vs)
  | field {name : String} {fs : List (String × Json)} (hf : (name, v) ∈ fs) : Part v (.object fs)

theorem Part.within {s : String} {v w : Json} (h : Part v w) (hs : Within s v) : Within s w := by
  cases h with
  | item hv => exact .item hv hs
  | field hf => exact .field hf hs

theorem mem_of_slotIn {fields : List (String × Json)} {name : String} {v : Json}
    (h : slotIn fields name = some (.value v)) : (name, v) ∈ fields := by
  unfold slotIn at h
  split at h
  · cases h
  · next f hf =>
    cases h
    obtain ⟨hmem, hname⟩ := List.mem_filter.mp (hf ▸ List.mem_singleton_self f)
    obtain rfl : f.1 = name := by simpa using hname
    exact hmem
  · cases h

theorem mem_of_slotsOfItems {names : List String} {items : List Json} {slots : List Slot} {v : Json}
    (h : slotsOfItems names items = some slots) (hv : .value v ∈ slots) : v ∈ items := by
  induction names generalizing items slots with
  | nil =>
    cases items with
    | nil =>
      cases h
      cases hv
    | cons w items => cases h
  | cons name names ih =>
    cases items with
    | nil =>
      obtain ⟨more, hmore, rfl⟩ := Option.map_eq_some_iff.mp h
      exact ih hmore ((List.mem_cons.mp hv).resolve_left nofun)
    | cons w items =>
      obtain ⟨more, hmore, rfl⟩ := Option.map_eq_some_iff.mp h
      obtain heq | hv := List.mem_cons.mp hv
      · cases heq
        exact List.mem_cons_self
      · exact List.mem_cons_of_mem w (ih hmore hv)

/-- What a slot holds is a part of the record. -/
theorem part_of_slots? {names : List String} {v w : Json} {slots : List Slot}
    (h : slots? names w = some slots) (hv : .value v ∈ slots) : Part v w := by
  unfold slots? at h
  split at h
  · obtain ⟨name, -, hname⟩ := exists_of_mem_mapM h hv
    exact .field (mem_of_slotIn hname)
  · exact .item (mem_of_slotsOfItems h hv)
  · cases h

/-! ## Fields -/

theorem eq_of_optional_text? {s : Slot} {t : String} (h : s.optional text? = some (some t)) :
    s = .value (.string t) := by
  cases s with
  | value v =>
    cases v with
    | string w =>
      obtain rfl : w = t := by simpa [Slot.optional, text?] using h
      rfl
    | _ => cases h
  | _ => cases h

theorem list?_eq_some {α : Type} {read : Json → Option α} {v : Json} {as : List α}
    (h : list? read v = some as) : ∃ items, v = array items ∧ items.mapM read = some as := by
  cases v with
  | array items => exact ⟨items, rfl, h⟩
  | _ => cases h

end ContextIndex.Json
