import Mathlib
import ContextIndex.Text.CharClass

/-!
# Words of a text

A word of a text is a maximal run of characters of words: it cannot be made longer at either end
(`IsWordRun`).  `wordRuns` lists all of them from left to right (`mem_wordRuns`,
`pairwise_wordRuns`), and each has its own place, so no other list does.
-/

namespace ContextIndex.Text

/-- A piece of a text, with the text before it and the text behind it. -/
structure Piece where
  /-- What stands before it. -/
  before : List Char
  /-- The piece itself. -/
  chars : List Char
  /-- What stands behind it. -/
  behind : List Char

/-- The piece is a maximal run of characters of words. -/
structure IsWordRun (text : List Char) (r : Piece) : Prop where
  text_eq : text = r.before ++ (r.chars ++ r.behind)
  ne_nil : r.chars ≠ []
  word : ∀ c ∈ r.chars, isWordChar c = true
  left : r.before.getLast?.any isWordChar = false
  right : r.behind.head?.any isWordChar = false

/-- The word runs that start behind the beginning of a text. -/
def wordRunsFrom (before : List Char) : List Char → List Piece
  | [] => []
  | c :: cs =>
    let later := wordRunsFrom (before ++ [c]) cs
    if isWordChar c && !before.getLast?.any isWordChar then
      ⟨before, (c :: cs).takeWhile isWordChar, (c :: cs).dropWhile isWordChar⟩ :: later
    else later

/-- The word runs of a text, from left to right. -/
def wordRuns (text : List Char) : List Piece :=
  wordRunsFrom [] text

section Runs

variable {before cs : List Char} {r : Piece}

theorem head?_dropWhile_any (p : Char → Bool) (cs : List Char) :
    (cs.dropWhile p).head?.any p = false := by
  have hhead := List.head?_dropWhile_not p cs
  cases hdrop : (cs.dropWhile p).head? with
  | none => rfl
  | some c =>
    rw [hdrop] at hhead
    exact hhead

theorem takeWhile_append_of_stop {p : Char → Bool} {cs ds : List Char} (hcs : ∀ c ∈ cs, p c = true)
    (hds : ds.head?.any p = false) :
    (cs ++ ds).takeWhile p = cs ∧ (cs ++ ds).dropWhile p = ds := by
  rw [List.takeWhile_append_of_pos hcs, List.dropWhile_append_of_pos hcs]
  cases ds with
  | nil => simp
  | cons d ds =>
    have hd : p d = false := hds
    simp [hd]

/-- A run that starts at a place is all that goes on from there. -/
theorem isWordRun_here (before cs : List Char) (r : Piece) :
    IsWordRun (before ++ cs) r ∧ r.before.length = before.length ↔
      r = ⟨before, cs.takeWhile isWordChar, cs.dropWhile isWordChar⟩ ∧
        cs.head?.any isWordChar = true ∧ before.getLast?.any isWordChar = false := by
  constructor
  · rintro ⟨h, hlength⟩
    obtain ⟨b, w, rest⟩ := r
    obtain ⟨hbefore, hcs⟩ := List.append_inj h.text_eq hlength.symm
    subst hbefore hcs
    obtain ⟨htake, hdrop⟩ := takeWhile_append_of_stop h.word h.right
    refine ⟨by rw [htake, hdrop], ?_, h.left⟩
    cases w with
    | nil => exact absurd rfl h.ne_nil
    | cons c w => exact h.word c List.mem_cons_self
  · rintro ⟨rfl, hhead, hleft⟩
    refine ⟨⟨by rw [List.takeWhile_append_dropWhile], ?_, fun c hc => List.mem_takeWhile_imp hc,
      hleft, head?_dropWhile_any isWordChar cs⟩, rfl⟩
    cases cs with
    | nil => cases hhead
    | cons c cs =>
      have hc : isWordChar c = true := hhead
      simp [hc]

theorem mem_wordRunsFrom : r ∈ wordRunsFrom before cs ↔
    IsWordRun (before ++ cs) r ∧ before.length ≤ r.before.length := by
  induction cs generalizing before with
  | nil =>
    refine ⟨nofun, fun ⟨h, hle⟩ => absurd h.ne_nil (not_not_intro ?_)⟩
    have hlength := congrArg List.length h.text_eq
    simp only [List.append_nil, List.length_append] at hlength
    exact List.length_eq_zero_iff.mp (by omega)
  | cons c cs ih =>
    have hlater : r ∈ wordRunsFrom (before ++ [c]) cs ↔
        IsWordRun (before ++ c :: cs) r ∧ before.length < r.before.length := by
      rw [ih, List.append_assoc, List.length_append]
      rfl
    have hhere := isWordRun_here before (c :: cs) r
    rw [wordRunsFrom, Nat.le_iff_lt_or_eq, and_or_left, ← hlater, eq_comm (a := before.length), hhere]
    split
    · next h =>
      obtain ⟨hc, hleft⟩ : isWordChar c = true ∧ before.getLast?.any isWordChar = false := by
        simpa using h
      simp [hc, hleft, or_comm]
    · next h =>
      simp only [List.head?_cons, Option.any_some]
      refine (or_iff_left ?_).symm
      rintro ⟨-, hc, hleft⟩
      simp [hc, hleft] at h

theorem mem_wordRuns {text : List Char} : r ∈ wordRuns text ↔ IsWordRun text r := by
  simp [wordRuns, mem_wordRunsFrom]

theorem pairwise_wordRunsFrom (before cs : List Char) :
    (wordRunsFrom before cs).Pairwise fun r s => r.before.length < s.before.length := by
  induction cs generalizing before with
  | nil => exact .nil
  | cons c cs ih =>
    rw [wordRunsFrom]
    split
    · refine List.pairwise_cons.mpr ⟨fun r hr => ?_, ih (before ++ [c])⟩
      simpa using (mem_wordRunsFrom.mp hr).2
    · exact ih (before ++ [c])

theorem pairwise_wordRuns (text : List Char) :
    (wordRuns text).Pairwise fun r s => r.before.length < s.before.length :=
  pairwise_wordRunsFrom [] text

end Runs

end ContextIndex.Text
