import ContextIndex.Word

/-!
# Token costs

The cost of a text is an estimate: one token for every four characters, rounded up.  It is not the
count of any tokenizer.  It only has to be the same wherever a budget is weighed.  A text is cut to
a budget between characters.
-/

namespace ContextIndex.Token

/-- Characters per token. -/
def charsPerToken : Nat := 4

/-- The cost of this many characters. -/
def costOfLength (n : Nat) : Nat :=
  (n + (charsPerToken - 1)) / charsPerToken

/-- The cost of a text. -/
def estimate (text : List Char) : Nat :=
  costOfLength text.length

/-- The longest beginning of a text that costs at most `budget`. -/
def truncate (text : List Char) (budget : Nat) : List Char :=
  text.take (saturatingMul budget charsPerToken)

/-- The cost of a string. -/
def cost (s : String) : Nat :=
  costOfLength s.length

/-- A string cut to a budget. -/
def cut (s : String) (budget : Nat) : String :=
  String.ofList (truncate s.toList budget)

/-- A string costs what its characters cost. -/
theorem cost_eq_estimate (s : String) : cost s = estimate s.toList := by
  rw [cost, estimate, String.length_toList]

theorem cost_ofList (text : List Char) : cost (String.ofList text) = estimate text := by
  rw [cost_eq_estimate, String.toList_ofList]

/-- A beginning of a text is cut off, nothing else. -/
theorem truncate_append (text : List Char) (budget : Nat) :
    truncate text budget ++ text.drop (saturatingMul budget charsPerToken) = text := by
  simp [truncate]

/-- A text is cut at the budget or at the largest length there is. -/
theorem length_truncate (text : List Char) (budget : Nat) :
    (truncate text budget).length =
      min (min (budget * charsPerToken) maxWord) text.length := by
  simp only [truncate, List.length_take, saturatingMul]

/-- A text that is cut costs no more than the budget. -/
theorem estimate_truncate_le (text : List Char) (budget : Nat) :
    estimate (truncate text budget) ≤ budget := by
  simp only [estimate, length_truncate, costOfLength, charsPerToken]
  omega

/-- A text whose length is a 64-bit quantity is cut to the budget exactly, unless it costs less. -/
theorem estimate_truncate {text : List Char} (h : text.length < wordBound) (budget : Nat) :
    estimate (truncate text budget) = min (estimate text) budget := by
  have hbound : text.length ≤ maxWord := Nat.le_pred_of_lt h
  simp only [estimate, length_truncate, costOfLength, charsPerToken]
  omega

/-- A text whose length is a 64-bit quantity is not cut to a budget that it fits. -/
theorem truncate_eq_self {text : List Char} (h : text.length < wordBound) {budget : Nat}
    (hfits : estimate text ≤ budget) : truncate text budget = text := by
  refine List.take_of_length_le ?_
  have hbound : text.length ≤ maxWord := Nat.le_pred_of_lt h
  simp only [estimate, costOfLength, charsPerToken] at hfits
  simp only [saturatingMul, charsPerToken]
  omega

end ContextIndex.Token
