import ContextIndex.Proofs.Query.Slices

/-!
# Cuts to a budget

A text is cut after four characters for each token of its budget, and a cost is the fourth part of a
length, rounded up.  So a beginning of a text that costs no more than the budget is no longer than
the cut (`longest_truncate`), and one that is longer costs more (`Longest.lt_estimate`).  The product
of a large budget stays at the largest quantity there is, which cuts nothing off a text whose length
is a quantity.  As the product keeps the order of budgets, a cut of a cut is the cut to the smaller
of both budgets (`truncate_truncate`).

Strings are cut as their characters are, and of two beginnings of a string the one with more bytes
has more characters.  `cut_exact` puts this together.
-/

namespace ContextIndex

theorem saturatingMul_min (a b c : Nat) :
    saturatingMul (min a b) c = min (saturatingMul a c) (saturatingMul b c) := by
  unfold saturatingMul
  rw [← Nat.mul_min_mul_right]
  omega

namespace Token

/-! ## Characters -/

section Characters

variable {text kept front : List Char} {budget : Nat}

/-- What is longer than the longest beginning within a budget is over the budget. -/
theorem Longest.lt_estimate (h : Longest text budget kept) (hfront : front <+: text)
    (hlonger : kept.length < front.length) : budget < estimate front := by
  refine Nat.lt_of_not_le fun haffordable => ?_
  have hle := (h.longest front hfront haffordable).length_le
  omega

theorem truncate_truncate (text : List Char) (m n : Nat) :
    truncate (truncate text m) n = truncate text (min m n) := by
  unfold truncate
  rw [List.take_take, saturatingMul_min, Nat.min_comm]

end Characters

/-! ## Strings -/

theorem toList_cut (s : String) (budget : Nat) : (cut s budget).toList = truncate s.toList budget :=
  String.toList_ofList

theorem prefix_iff_exists_append {p s : String} :
    p.toList <+: s.toList ↔ ∃ rest, p ++ rest = s := by
  constructor
  · rintro ⟨rest, hrest⟩
    refine ⟨String.ofList rest, String.toList_inj.mp ?_⟩
    rw [String.toList_append, String.toList_ofList, hrest]
  · rintro ⟨rest, rfl⟩
    exact ⟨rest.toList, String.toList_append.symm⟩

/-- Of two beginnings of a string, the one with more bytes has more characters. -/
theorem length_lt_of_utf8ByteSize_lt {p q s : String} (hp : p.toList <+: s.toList)
    (hq : q.toList <+: s.toList) (h : p.utf8ByteSize < q.utf8ByteSize) :
    p.toList.length < q.toList.length := by
  refine Nat.lt_of_not_le fun hle => ?_
  obtain ⟨rest, rfl⟩ :=
    prefix_iff_exists_append.mp (List.prefix_of_prefix_length_le hq hp hle)
  rw [String.utf8ByteSize_append] at h
  omega

/-- A string whose length is a 64-bit quantity is cut to its longest beginning that the budget
affords.  The cut costs the budget exactly, or what the string costs if that is less; a beginning of
more bytes costs more than the budget; and a cut that is cut again is the string cut to the smaller
budget. -/
theorem cut_exact {s : String} (h : s.length < wordBound) (m n : Nat) :
    (∃ rest, cut s m ++ rest = s) ∧
      cost (cut s m) = min (cost s) m ∧
      (∀ p rest, p ++ rest = s → (cut s m).utf8ByteSize < p.utf8ByteSize → m < cost p) ∧
      cut (cut s m) n = cut s (min m n) := by
  have hlength : s.toList.length < wordBound := by rwa [String.length_toList]
  have hlongest := longest_truncate hlength m
  have hbeginning : (cut s m).toList <+: s.toList := by
    rw [toList_cut]
    exact hlongest.beginning
  refine ⟨prefix_iff_exists_append.mp hbeginning, ?_, fun p rest hp hbytes => ?_, ?_⟩
  · rw [cut, cost_ofList, estimate_truncate hlength, cost_eq_estimate]
  · have hfront : p.toList <+: s.toList := prefix_iff_exists_append.mpr ⟨rest, hp⟩
    have hlonger := length_lt_of_utf8ByteSize_lt hbeginning hfront hbytes
    rw [toList_cut] at hlonger
    rw [cost_eq_estimate]
    exact hlongest.lt_estimate hfront hlonger
  · rw [cut, toList_cut, truncate_truncate, cut]

/-- Letters of two bytes, cut to one token, and what the largest budget makes of that. -/
theorem cut_exact_umlauts : "üüüüüü".length < wordBound ∧ cut "üüüüüü" 1 = "üüüü" ∧
    cost (cut "üüüüüü" 1) = min (cost "üüüüüü") 1 ∧ 1 < cost "üüüüü" ∧
    cut (cut "üüüüüü" 1) maxWord = cut "üüüüüü" 1 := by
  have hlength : "üüüüüü".length < wordBound := by decide
  have hcut : cut "üüüüüü" 1 = "üüüü" := by decide +kernel
  obtain ⟨-, hcost, hlonger, htwice⟩ := cut_exact hlength 1 maxWord
  refine ⟨hlength, hcut, hcost, hlonger "üüüüü" "ü" (by decide +kernel) ?_, htwice⟩
  rw [hcut]
  decide +kernel

end Token

end ContextIndex
