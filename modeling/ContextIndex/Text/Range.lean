/-!
# Ranges of code points

A property of characters is given as a list of ranges of code points, in increasing order and
without overlap.  Membership reads the list from the front and stops at the first range that ends
at or after the character.
-/

namespace ContextIndex.Text

/-- The first and the last code point of a range. -/
abbrev CodeRange := Nat × Nat

/-- Whether a code point lies in one of the ranges.  The list is sorted, so the first range that
does not end before the code point decides. -/
def inRanges : List CodeRange → Nat → Bool
  | [], _ => false
  | r :: rs, n => if r.2 < n then inRanges rs n else decide (r.1 ≤ n)

/-- Each range is in order and ends before the next one starts. -/
def RangesSorted : List CodeRange → Bool
  | [] => true
  | [r] => decide (r.1 ≤ r.2)
  | r :: s :: rs => decide (r.1 ≤ r.2) && decide (r.2 < s.1) && RangesSorted (s :: rs)

/-- On a sorted table a code point is found exactly if some range holds it. -/
theorem inRanges_eq_true_iff {rs : List CodeRange} (h : RangesSorted rs = true) (n : Nat) :
    inRanges rs n = true ↔ ∃ r ∈ rs, r.1 ≤ n ∧ n ≤ r.2 := by
  induction rs with
  | nil => simp [inRanges]
  | cons r rs ih =>
    have tail : RangesSorted rs = true := by
      cases rs with
      | nil => rfl
      | cons s rs => simp [RangesSorted] at h; simpa using h.2
    have later : ∀ s ∈ rs, r.2 < s.1 := by
      clear ih
      induction rs generalizing r with
      | nil => simp
      | cons s rs ih =>
        simp [RangesSorted] at h
        intro t ht
        cases ht with
        | head => omega
        | tail _ ht =>
          have srs : RangesSorted rs = true := by
            cases rs with
            | nil => rfl
            | cons u rs => have := h.2; simp [RangesSorted] at this; simpa using this.2
          have := ih s h.2 srs t ht
          have hs : s.1 ≤ s.2 := by
            cases rs with
            | nil => have := h.2; simpa [RangesSorted] using this
            | cons u rs => have := h.2; simp [RangesSorted] at this; exact this.1.1
          omega
    unfold inRanges
    by_cases hr : r.2 < n
    · rw [if_pos hr, ih tail]
      constructor
      · rintro ⟨s, hs, hn⟩
        exact ⟨s, List.mem_cons_of_mem _ hs, hn⟩
      · rintro ⟨s, hs, hn⟩
        cases hs with
        | head => omega
        | tail _ hs => exact ⟨s, hs, hn⟩
    · rw [if_neg hr, decide_eq_true_iff]
      constructor
      · intro hn
        exact ⟨r, List.mem_cons_self, hn, by omega⟩
      · rintro ⟨s, hs, hn⟩
        cases hs with
        | head => exact hn.1
        | tail _ hs => have := later s hs; omega

end ContextIndex.Text
