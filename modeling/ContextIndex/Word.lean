/-!
# Sixty-four bit quantities

Sizes, lines and budgets are 64-bit quantities.  Most sums of them stay far below the bound; where
one can reach it, the two ways out are named here: stay at the bound, or say that the sum does not
exist.  Some quantities are kept with a sign, which halves what they may be.
-/

namespace ContextIndex

/-- The number of 64-bit quantities, two to the power of 64. -/
def wordBound : Nat := 0x10000000000000000

/-- The number of 64-bit quantities that are not negative when kept with a sign. -/
def signedBound : Nat := 0x8000000000000000

/-- The largest 64-bit quantity. -/
def maxWord : Nat := wordBound - 1

/-- A product that stays at the largest quantity when it would pass it. -/
def saturatingMul (a b : Nat) : Nat :=
  min (a * b) maxWord

/-- A sum, if it is a 64-bit quantity. -/
def addWord? (a b : Nat) : Option Nat :=
  if a + b < wordBound then some (a + b) else none

/-- The sum of quantities. -/
def total : List Nat → Nat
  | [] => 0
  | n :: ns => n + total ns

/-- The sum of two lists is the sum of their sums. -/
theorem total_append (ms ns : List Nat) : total (ms ++ ns) = total ms + total ns := by
  induction ms with
  | nil => simp [total]
  | cons m ms ih => simp [total, ih, Nat.add_assoc]

/-- Some of the quantities, in order, have no larger sum. -/
theorem total_le_of_sublist {ms ns : List Nat} (h : ms.Sublist ns) : total ms ≤ total ns := by
  induction h with
  | slnil => exact Nat.le_refl _
  | cons n _ ih => exact Nat.le_trans ih (Nat.le_add_left _ n)
  | cons_cons n _ ih => exact Nat.add_le_add_left ih n

/-- Equal quantities have a product for their sum. -/
theorem total_replicate (k n : Nat) : total (List.replicate k n) = n * k := by
  induction k with
  | zero => rfl
  | succ k ih => rw [List.replicate_succ, total, ih, Nat.mul_succ, Nat.add_comm]

/-- Quantities with a common bound have a sum that is bounded by as many times that. -/
theorem total_map_le {α : Type} {bound : Nat} {g : α → Nat} {l : List α}
    (h : ∀ a ∈ l, g a ≤ bound) : total (l.map g) ≤ bound * l.length := by
  induction l with
  | nil => exact Nat.le_refl 0
  | cons a l ih =>
    have hhead := h a List.mem_cons_self
    have htail := ih fun b hb => h b (List.mem_cons_of_mem a hb)
    rw [List.map_cons, total, List.length_cons, Nat.mul_succ]
    omega

example : wordBound = Nat.pow 2 64 ∧ signedBound = Nat.pow 2 63 := by decide +kernel

end ContextIndex
