import ContextIndex.Text.CharClass
import ContextIndex.Word

/-!
# Lines

A text is cut into lines at line feeds only, so a carriage return stays in its line and a text has
one line more than it has line feeds.  Lines are numbered from one and a range of lines holds both
its ends.  The main statements say that cutting and joining lose nothing, and that a range of lines
is what it says.
-/

namespace ContextIndex.Text

/-- The lines of a text. -/
def lines : List Char → List (List Char)
  | [] => [[]]
  | c :: cs =>
    if c = '\n' then [] :: lines cs
    else match lines cs with
      | [] => [[c]]
      | l :: ls => (c :: l) :: ls

/-- Lines joined by line feeds. -/
def joinLines : List (List Char) → List Char
  | [] => []
  | [l] => l
  | l :: ls => l ++ '\n' :: joinLines ls

/-- The number of lines of a text. -/
def countLines (cs : List Char) : Nat :=
  cs.count '\n' + 1

/-- Lines `first` to `last`, as far as the text has them. -/
def lineRange (cs : List Char) (first last : Nat) : List Char :=
  let first := max first 1
  if last < first then []
  else joinLines (((lines cs).drop (first - 1)).take (last - first + 1))

/-- A text has at least one line. -/
theorem lines_ne_nil (cs : List Char) : lines cs ≠ [] := by
  cases cs with
  | nil => simp [lines]
  | cons c cs =>
    unfold lines
    split
    · simp
    · split <;> simp

/-- The lines are as many as `countLines` says. -/
theorem length_lines (cs : List Char) : (lines cs).length = countLines cs := by
  induction cs with
  | nil => rfl
  | cons c cs ih =>
    unfold lines
    by_cases h : c = '\n'
    · rw [if_pos h, List.length_cons, ih]
      simp [countLines, h]
    · rw [if_neg h]
      have keep : countLines (c :: cs) = countLines cs := by
        simp [countLines, h]
      cases hl : lines cs with
      | nil => exact absurd hl (lines_ne_nil cs)
      | cons l ls =>
        rw [hl] at ih
        rw [keep, ← ih]
        rfl

/-- Joining the lines of a text gives the text back. -/
theorem joinLines_lines (cs : List Char) : joinLines (lines cs) = cs := by
  induction cs with
  | nil => rfl
  | cons c cs ih =>
    unfold lines
    by_cases h : c = '\n'
    · rw [if_pos h]
      cases hl : lines cs with
      | nil => exact absurd hl (lines_ne_nil cs)
      | cons l ls =>
        rw [hl] at ih
        simp [joinLines, h, ih]
    · rw [if_neg h]
      cases hl : lines cs with
      | nil => exact absurd hl (lines_ne_nil cs)
      | cons l ls =>
        rw [hl] at ih
        cases ls with
        | nil => simpa [joinLines] using ih
        | cons m ms => simpa [joinLines] using ih

/-- No line holds a line feed. -/
theorem newline_not_mem_lines {cs l : List Char} (h : l ∈ lines cs) : '\n' ∉ l := by
  induction cs generalizing l with
  | nil => simp [lines] at h; simp [h]
  | cons c cs ih =>
    unfold lines at h
    by_cases hc : c = '\n'
    · rw [if_pos hc] at h
      cases h with
      | head => simp
      | tail _ h => exact ih h
    · rw [if_neg hc] at h
      cases hl : lines cs with
      | nil => exact absurd hl (lines_ne_nil cs)
      | cons m ms =>
        rw [hl] at h ih
        cases h with
        | head =>
          intro hm
          cases hm with
          | head => exact hc rfl
          | tail _ hm => exact ih List.mem_cons_self hm
        | tail _ h => exact ih (List.mem_cons_of_mem _ h)

/-- All lines of a text are the text. -/
theorem lineRange_all (cs : List Char) : lineRange cs 1 (countLines cs) = cs := by
  have pos : ¬ countLines cs < max 1 1 := by simp [countLines]
  unfold lineRange
  rw [if_neg pos]
  have all : countLines cs - max 1 1 + 1 = (lines cs).length := by
    rw [length_lines]
    simp [countLines]
  rw [all]
  simp [joinLines_lines]

/-- Joined lines have a line feed between any two of them. -/
theorem length_joinLines {ls : List (List Char)} (h : ls ≠ []) :
    (joinLines ls).length + 1 = total (ls.map fun l => l.length + 1) := by
  induction ls with
  | nil => exact absurd rfl h
  | cons l ls ih =>
    cases ls with
    | nil => rfl
    | cons m ms =>
      have hrest := ih (List.cons_ne_nil m ms)
      rw [List.map_cons, total, ← hrest]
      simp only [joinLines, List.length_append, List.length_cons]
      omega

/-- A range of lines is no longer than the text. -/
theorem length_lineRange_le (cs : List Char) (first last : Nat) :
    (lineRange cs first last).length ≤ cs.length := by
  simp only [lineRange]
  by_cases hrange : last < max first 1
  · rw [if_pos hrange]
    exact Nat.zero_le _
  · rw [if_neg hrange]
    cases hls : ((lines cs).drop (max first 1 - 1)).take (last - max first 1 + 1) with
    | nil => exact Nat.zero_le _
    | cons l ls =>
      have hsub : (l :: ls).Sublist (lines cs) :=
        hls ▸ (List.take_sublist _ _).trans (List.drop_sublist _ _)
      have hle := total_le_of_sublist (hsub.map fun l => l.length + 1)
      rw [← length_joinLines (List.cons_ne_nil l ls), ← length_joinLines (lines_ne_nil cs),
        joinLines_lines] at hle
      exact Nat.le_of_succ_le_succ hle

/-- The bytes of white space at the start of a line. -/
def indent (line : List Char) : Nat :=
  byteLength (line.takeWhile isSpace)

end ContextIndex.Text
