import ContextIndex.Extract.Block
import Mathlib.Data.List.TakeWhile
import Mathlib.Order.Bounds.Basic

/-!
# Blocks by indentation

The scan for the end of an indented block goes line by line and keeps the last line that belongs to
the block.  What it finds can be said of the lines as a whole.  The block is over at the first later
line that is neither blank nor indented deeper than the first one (`Stops`), and its last line is the
last one before that which is not blank.

`scanIndented_eq` takes the two apart: the lines up to the one that stops the block, and the last of
these that is not blank (`isGreatest_lastInked`).  `indentedBlockEnd_offside` is the whole scan, over
lines of any number and any white space.
-/

namespace ContextIndex.Extract

/-- Whether a line does not stop a block whose first line is indented this far. -/
def staysIn (base : Nat) (line : List Char) : Bool :=
  Text.isBlank line || decide (base < Text.indent line)

/-- The line of this number stops a block whose first line is indented this far. -/
def Stops (ls : List (List Char)) (base n : Nat) : Prop :=
  ∃ l, ls[n - 1]? = some l ∧ Text.isBlank l = false ∧ Text.indent l ≤ base

theorem staysIn_eq_false {base : Nat} {line : List Char} :
    staysIn base line = false ↔ Text.isBlank line = false ∧ Text.indent line ≤ base := by
  simp [staysIn]

/-! ## Lines that are not blank -/

/-- The numbers of the lines that are not blank; `line` is the number of the line before them. -/
def inked (line : Nat) (ls : List (List Char)) : Set Nat :=
  {n | line < n ∧ ∃ l, ls[n - line - 1]? = some l ∧ Text.isBlank l = false}

theorem inked_nil (line : Nat) : inked line [] = ∅ := by
  simp [inked]

theorem mem_inked_cons {line n : Nat} {l : List Char} {ls : List (List Char)} :
    n ∈ inked line (l :: ls) ↔
      (n = line + 1 ∧ Text.isBlank l = false) ∨ n ∈ inked (line + 1) ls := by
  simp only [inked, Set.mem_ofPred_eq]
  obtain hn | rfl | hn : n ≤ line ∨ n = line + 1 ∨ line + 1 < n := by omega
  · exact iff_of_false (fun h => Nat.not_lt.mpr hn h.1) (by omega)
  · simp
  · rw [show n - line - 1 = n - (line + 1) - 1 + 1 by omega, List.getElem?_cons_succ]
    simp [hn, Nat.ne_of_gt hn, Nat.lt_of_succ_lt hn]

/-- The last of some lines that is not blank, or `last` if they all are; `line` is the number of the
line before them. -/
def lastInked (last line : Nat) : List (List Char) → Nat
  | [] => last
  | l :: ls => lastInked (if Text.isBlank l then last else line + 1) (line + 1) ls

theorem isGreatest_lastInked {last line : Nat} (h : last ≤ line) (ls : List (List Char)) :
    IsGreatest (insert last (inked line ls)) (lastInked last line ls) := by
  induction ls generalizing last line with
  | nil =>
    rw [inked_nil, insert_empty_eq]
    exact isGreatest_singleton
  | cons l ls ih =>
    rw [lastInked]
    by_cases hblank : Text.isBlank l = true
    · obtain ⟨hmem, hle⟩ := ih (Nat.le_succ_of_le h)
      rw [if_pos hblank]
      refine ⟨hmem.imp_right fun hn => mem_inked_cons.mpr (.inr hn), fun n hn => hle ?_⟩
      refine hn.imp_right fun hn => ?_
      obtain ⟨-, hinked⟩ | hn := mem_inked_cons.mp hn
      · exact absurd hblank (by simp [hinked])
      · exact hn
    · obtain ⟨hmem, hle⟩ := ih (Nat.le_refl (line + 1))
      have hinked : Text.isBlank l = false := by simpa using hblank
      rw [if_neg hblank]
      refine ⟨.inr (mem_inked_cons.mpr ?_), fun n hn => ?_⟩
      · exact hmem.imp_left fun heq => ⟨heq, hinked⟩
      · obtain rfl | hn := hn
        · exact Nat.le_trans (Nat.le_succ_of_le h) (hle (.inl rfl))
        · exact hle ((mem_inked_cons.mp hn).imp_left And.left)

/-! ## The scan -/

/-- The scan looks for the last line that is not blank among those before the one that stops it. -/
theorem scanIndented_eq (base last line : Nat) (ls : List (List Char)) :
    scanIndented base last line ls = lastInked last line (ls.takeWhile (staysIn base)) := by
  induction ls generalizing last line with
  | nil => rfl
  | cons l ls ih =>
    rw [scanIndented]
    by_cases hblank : Text.isBlank l = true
    · have hstays : staysIn base l = true := by simp [staysIn, hblank]
      rw [if_pos hblank, List.takeWhile_cons_of_pos hstays, lastInked, if_pos hblank, ih]
    · rw [if_neg hblank]
      by_cases hshallow : Text.indent l ≤ base
      · have hstops : ¬staysIn base l = true := by simp [staysIn, hblank, hshallow]
        rw [if_pos hshallow, List.takeWhile_cons_of_neg hstops, lastInked]
      · have hstays : staysIn base l = true := by simp [staysIn, Nat.not_le.mp hshallow]
        rw [if_neg hshallow, List.takeWhile_cons_of_pos hstays, lastInked, if_neg hblank, ih]

section Block

variable {ls : List (List Char)} {start : Nat} {first : List Char}

/-- The lines after the first one that do not stop the block. -/
def blockRest (ls : List (List Char)) (start base : Nat) : List (List Char) :=
  (ls.drop start).takeWhile (staysIn base)

theorem indentedBlockEnd_eq (hline : ls[start - 1]? = some first) : indentedBlockEnd ls start =
    lastInked start start (blockRest ls start (Text.indent first)) := by
  rw [indentedBlockEnd, hline]
  exact scanIndented_eq _ _ _ _

variable {base : Nat}

/-- Up to the line that stops the block, its lines are lines of the file. -/
theorem getElem?_of_lt {i : Nat} (h : i < (blockRest ls start base).length) :
    (blockRest ls start base)[i]? = ls[start + i]? := by
  have hprefix : blockRest ls start base <+: ls.drop start := List.takeWhile_prefix _
  rw [← List.getElem?_drop, List.prefix_iff_getElem?.mp hprefix i h, List.getElem?_eq_getElem h]

theorem length_blockRest_le : (blockRest ls start base).length ≤ ls.length - start := by
  rw [← List.length_drop]
  exact (List.takeWhile_prefix _).length_le

/-- The block goes on to the end of the file or to a line that stops it. -/
theorem stops_or_ends (hle : start ≤ ls.length) :
    start + (blockRest ls start base).length = ls.length ∨
      Stops ls base (start + (blockRest ls start base).length + 1) := by
  have hsplit : blockRest ls start base ++ (ls.drop start).dropWhile (staysIn base) =
      ls.drop start := List.takeWhile_append_dropWhile
  have hhead := List.head?_dropWhile_not (staysIn base) (ls.drop start)
  cases hrest : (ls.drop start).dropWhile (staysIn base) with
  | nil =>
    rw [hrest, List.append_nil] at hsplit
    rw [hsplit, List.length_drop]
    exact .inl (Nat.add_sub_cancel' hle)
  | cons l rest =>
    rw [hrest] at hsplit hhead
    refine .inr ⟨l, ?_, staysIn_eq_false.mp hhead⟩
    rw [Nat.add_sub_cancel, ← List.getElem?_drop, ← hsplit]
    simp

theorem isLeast_stop (hle : start ≤ ls.length) :
    IsLeast {n | start < n ∧ (n = ls.length + 1 ∨ Stops ls base n)}
      (start + (blockRest ls start base).length + 1) := by
  refine ⟨⟨by omega, (stops_or_ends hle).imp_left (congrArg (· + 1))⟩, ?_⟩
  rintro n ⟨hn, rfl | ⟨l, hl, hinked, hshallow⟩⟩
  · have hlength : (blockRest ls start base).length ≤ ls.length - start := length_blockRest_le
    omega
  · by_contra hlt
    have hi : n - start - 1 < (blockRest ls start base).length := by omega
    have hget := getElem?_of_lt hi
    rw [show start + (n - start - 1) = n - 1 by omega, hl] at hget
    have hstays : staysIn base l = true := List.mem_takeWhile_imp (List.mem_of_getElem? hget)
    rw [staysIn_eq_false.mpr ⟨hinked, hshallow⟩] at hstays
    cases hstays

/-- The numbers of the lines of the block behind the first one that are not blank. -/
theorem inked_blockRest : inked start (blockRest ls start base) =
    {n | start < n ∧ n < start + (blockRest ls start base).length + 1 ∧
      ∃ l, ls[n - 1]? = some l ∧ Text.isBlank l = false} := by
  ext n
  simp only [inked, Set.mem_ofPred_eq]
  refine and_congr_right fun hn => ?_
  obtain hlt | hle := Nat.lt_or_ge (n - start - 1) (blockRest ls start base).length
  · rw [getElem?_of_lt hlt, show start + (n - start - 1) = n - 1 by omega]
    exact (and_iff_right (by omega)).symm
  · rw [List.getElem?_eq_none hle]
    exact iff_of_false (by simp) (by omega)

/-- What comes behind the line that stops the block makes no difference to the lines before. -/
theorem takeWhile_eq_of_take {p : List Char → Bool} {xs ys : List (List Char)}
    (h : ys.take ((xs.takeWhile p).length + 1) = xs.take ((xs.takeWhile p).length + 1)) :
    ys.takeWhile p = xs.takeWhile p := by
  induction xs generalizing ys with
  | nil =>
    obtain rfl : ys = [] := by simpa using h
    rfl
  | cons x xs ih =>
    by_cases hx : p x = true
    · rw [List.takeWhile_cons_of_pos hx, List.length_cons, List.take_succ_cons] at h
      cases ys with
      | nil => cases h
      | cons y ys =>
        rw [List.take_succ_cons] at h
        obtain ⟨rfl, hrest⟩ := List.cons.inj h
        rw [List.takeWhile_cons_of_pos hx, List.takeWhile_cons_of_pos hx, ih hrest]
    · rw [List.takeWhile_cons_of_neg hx] at h
      cases ys with
      | nil => cases h
      | cons y ys =>
        obtain ⟨rfl, -⟩ := List.cons.inj h
        rw [List.takeWhile_cons_of_neg hx, List.takeWhile_cons_of_neg hx]

/-- The line that stops the block is the last one that makes a difference to its end. -/
theorem indentedBlockEnd_of_take (hfirst : 1 ≤ start) (hline : ls[start - 1]? = some first)
    {ls' : List (List Char)}
    (htake : ls'.take (start + (blockRest ls start (Text.indent first)).length + 1) =
      ls.take (start + (blockRest ls start (Text.indent first)).length + 1)) :
    indentedBlockEnd ls' start = indentedBlockEnd ls start := by
  have hlt : start - 1 < start + (blockRest ls start (Text.indent first)).length + 1 := by omega
  have hline' : ls'[start - 1]? = some first := by
    have hget := congrArg (fun xs => xs[start - 1]?) htake
    simp only [List.getElem?_take_of_lt hlt] at hget
    exact hget.trans hline
  have hrest : (ls'.drop start).takeWhile (staysIn (Text.indent first)) =
      blockRest ls start (Text.indent first) := by
    refine takeWhile_eq_of_take ?_
    have hdrop := congrArg (List.drop start) htake
    rw [List.drop_take, List.drop_take] at hdrop
    rwa [Nat.add_assoc, Nat.add_sub_cancel_left] at hdrop
  rw [indentedBlockEnd_eq hline, indentedBlockEnd_eq hline', blockRest, hrest]

/-- The end of a block by indentation, for lines of any number and any line of these.  Let `b` be the
first later line that is neither blank nor indented deeper than the first one, or the number behind
the last line if there is none.  The block ends with the last line between the first one and `b` that
is not blank, or with the first one.  So it ends in the file, no blank line behind the first one stops
it or ends it, and with any other lines behind `b`, or none, it ends where it does. -/
theorem indentedBlockEnd_offside (hfirst : 1 ≤ start) (hline : ls[start - 1]? = some first) :
    ∃ b, IsLeast {n | start < n ∧ (n = ls.length + 1 ∨ Stops ls (Text.indent first) n)} b ∧
      IsGreatest (insert start {n | start < n ∧ n < b ∧
        ∃ l, ls[n - 1]? = some l ∧ Text.isBlank l = false}) (indentedBlockEnd ls start) ∧
      (start ≤ indentedBlockEnd ls start ∧ indentedBlockEnd ls start ≤ ls.length) ∧
      (∀ n l, start < n → ls[n - 1]? = some l → Text.isBlank l = true →
        n ≠ b ∧ n ≠ indentedBlockEnd ls start) ∧
      ∀ ls', ls'.take b = ls.take b → indentedBlockEnd ls' start = indentedBlockEnd ls start := by
  have hle : start ≤ ls.length := by
    have := (List.getElem?_eq_some_iff.mp hline).1
    omega
  have hleast : IsLeast {n | start < n ∧ (n = ls.length + 1 ∨ Stops ls (Text.indent first) n)}
      (start + (blockRest ls start (Text.indent first)).length + 1) := isLeast_stop hle
  have hgreatest := isGreatest_lastInked (Nat.le_refl start)
    (blockRest ls start (Text.indent first))
  rw [← indentedBlockEnd_eq hline, inked_blockRest] at hgreatest
  refine ⟨_, hleast, hgreatest, ⟨hgreatest.2 (.inl rfl), ?_⟩, ?_, ?_⟩
  · obtain heq | ⟨-, hlt, -⟩ := hgreatest.1
    · exact (Nat.le_of_eq heq).trans hle
    · have hlength : (blockRest ls start (Text.indent first)).length ≤ ls.length - start :=
        length_blockRest_le
      omega
  · intro n l hn hl hblank
    constructor
    · rintro rfl
      obtain ⟨-, hend | ⟨l', hl', hinked, -⟩⟩ := hleast.1
      · rw [hend, List.getElem?_eq_none (by omega)] at hl
        cases hl
      · rw [Option.some.inj (hl.symm.trans hl'), hinked] at hblank
        cases hblank
    · rintro rfl
      obtain heq | ⟨-, -, l', hl', hinked⟩ := hgreatest.1
      · exact absurd heq (Nat.ne_of_gt hn)
      · rw [Option.some.inj (hl.symm.trans hl'), hinked] at hblank
        cases hblank
  · exact fun ls' htake => indentedBlockEnd_of_take hfirst hline htake

end Block

/-- A method behind two blanks.  The next line is deeper by the bytes of one wide space; blank lines
and a line behind two blanks follow. -/
def wideSpaced : List (List Char) :=
  ["class A:", "  def f(self):", "\u3000return 1", "", "   \t", "\t x = 1", "   y = 2"].map
    String.toList

theorem indentedBlockEnd_offside_wideSpaced :
    1 ≤ 2 ∧ wideSpaced[2 - 1]? = some "  def f(self):".toList ∧
      indentedBlockEnd wideSpaced 2 = 3 ∧
      ∃ b, IsLeast {n | 2 < n ∧ (n = wideSpaced.length + 1 ∨ Stops wideSpaced 2 n)} b ∧
        IsGreatest (insert 2 {n | 2 < n ∧ n < b ∧
          ∃ l, wideSpaced[n - 1]? = some l ∧ Text.isBlank l = false}) 3 ∧
        ∀ ls', ls'.take b = wideSpaced.take b → indentedBlockEnd ls' 2 = 3 := by
  have hline : wideSpaced[2 - 1]? = some "  def f(self):".toList := rfl
  have hend : indentedBlockEnd wideSpaced 2 = 3 := by decide +kernel
  have hindent : Text.indent "  def f(self):".toList = 2 := by decide +kernel
  obtain ⟨b, hleast, hgreatest, -, -, hrest⟩ := indentedBlockEnd_offside (by decide) hline
  rw [hend] at hgreatest hrest
  rw [hindent] at hleast
  exact ⟨by decide, hline, hend, b, hleast, hgreatest, hrest⟩

end ContextIndex.Extract
