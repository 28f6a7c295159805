import Mathlib.Data.List.Forall2

/-!
# Lists

A list is read item by item if every item is (`mapM_eq_some_iff_forall₂`), and of two places in a
list one is in front of the other.  Items that a test tells apart are different ones.
-/

namespace ContextIndex

theorem ne_of_test {α : Type} {test : α → Bool} {a b : α} (ha : test a = true) (hb : test b = false) :
    a ≠ b :=
  ne_of_apply_ne test (by rw [ha, hb]; decide)

section Items

variable {α β : Type} {f : α → Option β}

theorem mapM_cons_eq_some {a : α} {as : List α} {bs : List β} :
    (a :: as).mapM f = some bs ↔ ∃ b cs, f a = some b ∧ as.mapM f = some cs ∧ bs = b :: cs := by
  simp only [List.mapM_cons, Option.bind_eq_bind, Option.bind_eq_some_iff, Option.pure_def,
    Option.some.injEq]
  exact ⟨fun ⟨b, hb, cs, hcs, heq⟩ => ⟨b, cs, hb, hcs, heq.symm⟩,
    fun ⟨b, cs, hb, hcs, heq⟩ => ⟨b, hb, cs, hcs, heq.symm⟩⟩

/-- A list is read item by item. -/
theorem mapM_eq_some_iff_forall₂ {as : List α} {bs : List β} :
    as.mapM f = some bs ↔ List.Forall₂ (fun a b => f a = some b) as bs := by
  induction as generalizing bs with
  | nil => simp [eq_comm]
  | cons a as ih =>
    rw [mapM_cons_eq_some, List.forall₂_cons_left_iff]
    simp only [ih]

/-- Every result comes from an item. -/
theorem exists_of_mem_mapM {as : List α} {bs : List β} (h : as.mapM f = some bs) {b : β}
    (hb : b ∈ bs) : ∃ a ∈ as, f a = some b := by
  have hall := mapM_eq_some_iff_forall₂.mp h
  clear h
  induction hall with
  | nil => cases hb
  | @cons a c as bs hc _ ih =>
    obtain rfl | hb := List.mem_cons.mp hb
    · exact ⟨a, List.mem_cons_self, hc⟩
    · obtain ⟨d, hd, hfd⟩ := ih hb
      exact ⟨d, List.mem_cons_of_mem a hd, hfd⟩

/-- A list is read if every item is. -/
theorem exists_mapM_eq_some {as : List α} :
    (∃ bs, as.mapM f = some bs) ↔ ∀ a ∈ as, ∃ b, f a = some b := by
  induction as with
  | nil => simp
  | cons a as ih =>
    rw [List.forall_mem_cons, ← ih]
    simp only [mapM_cons_eq_some]
    constructor
    · rintro ⟨_, b, cs, hb, hcs, -⟩
      exact ⟨⟨b, hb⟩, cs, hcs⟩
    · rintro ⟨⟨b, hb⟩, cs, hcs⟩
      exact ⟨b :: cs, b, cs, hb, hcs, rfl⟩

end Items

/-- Of two places in one list, one is in front of the other. -/
theorem mem_or_mem_of_append_cons {α : Type} {a b u v : List α} {x y : α} (hne : x ≠ y)
    (h : u ++ x :: v = a ++ y :: b) : x ∈ a ∨ y ∈ u := by
  obtain ⟨d, rfl, hd⟩ | ⟨d, rfl, hd⟩ := List.append_eq_append_iff.mp h
  · left
    cases d with
    | nil => exact absurd (List.cons.inj hd).1 hne
    | cons c d => exact List.mem_append_right u ((List.cons.inj hd).1 ▸ List.mem_cons_self)
  · right
    cases d with
    | nil => exact absurd (List.cons.inj hd).1.symm hne
    | cons c d => exact List.mem_append_right a ((List.cons.inj hd).1 ▸ List.mem_cons_self)

end ContextIndex
