import ContextIndex.Text.Line

/-!
# Lines of texts that are put together

Where one text ends and another begins, the last line of the one and the first line of the other
become one line, and all other lines stay as they are (`lines_append`).  Lines that are joined come
apart again (`lines_joinLines`), so a range of lines has the lines that it is made of
(`lines_lineRange`), and two ranges of which one goes on where the other ends are put together by a
line feed (`lineRange_append`).  Whatever is cut off its end, the lines before the cut are complete
(`lines_of_beginning`).
-/

namespace ContextIndex.Text

@[simp] theorem lines_nil : lines [] = [[]] := rfl

@[simp] theorem lines_newline (cs : List Char) : lines ('\n' :: cs) = [] :: lines cs := by
  simp [lines]

/-- A character that is no line feed comes first on the first line. -/
theorem lines_cons {c : Char} (hc : c ≠ '\n') {cs l : List Char} {ls : List (List Char)}
    (h : lines cs = l :: ls) : lines (c :: cs) = (c :: l) :: ls := by
  simp [lines, hc, h]

/-- A text ends on a line. -/
theorem exists_lines (cs : List Char) : ∃ full part, lines cs = full ++ [part] :=
  ⟨_, _, (List.dropLast_concat_getLast (lines_ne_nil cs)).symm⟩

/-- The last line of one text and the first of the next make one line. -/
theorem lines_append {front back part rest : List Char} {full more : List (List Char)}
    (hfront : lines front = full ++ [part]) (hback : lines back = rest :: more) :
    lines (front ++ back) = full ++ (part ++ rest) :: more := by
  induction front generalizing full part with
  | nil =>
    obtain ⟨rfl, rfl⟩ : full = [] ∧ [] = part := by cases full <;> simp_all
    exact hback
  | cons c front ih =>
    by_cases hc : c = '\n'
    · subst hc
      rw [lines_newline] at hfront
      cases full with
      | nil => exact absurd (List.cons.inj hfront).2 (lines_ne_nil front)
      | cons l full =>
        obtain ⟨rfl, hrest⟩ := List.cons.inj hfront
        simp [ih hrest]
    · obtain ⟨l, ls, hl⟩ := List.exists_cons_of_ne_nil (lines_ne_nil front)
      rw [lines_cons hc hl] at hfront
      cases full with
      | nil =>
        obtain ⟨rfl, rfl⟩ := List.cons.inj hfront
        have hone : lines front = [] ++ [l] := hl
        exact lines_cons hc (ih hone)
      | cons m full =>
        obtain ⟨rfl, rfl⟩ := List.cons.inj hfront
        have hmore : lines front = (l :: full) ++ [part] := hl
        exact lines_cons hc (ih hmore)

/-- What has no line feed stands at the front of the line that it begins. -/
theorem lines_append_of_not_mem {front back rest : List Char} {more : List (List Char)}
    (h : '\n' ∉ front) (hback : lines back = rest :: more) :
    lines (front ++ back) = (front ++ rest) :: more := by
  induction front with
  | nil => exact hback
  | cons c front ih =>
    simp only [List.mem_cons, not_or] at h
    exact lines_cons (Ne.symm h.1) (ih h.2)

/-- A text without a line feed is one line. -/
theorem lines_eq_singleton {cs : List Char} (h : '\n' ∉ cs) : lines cs = [cs] := by
  simpa using lines_append_of_not_mem h lines_nil

/-- Lines that are joined come apart again. -/
theorem lines_joinLines {ls : List (List Char)} (hne : ls ≠ []) (h : ∀ l ∈ ls, '\n' ∉ l) :
    lines (joinLines ls) = ls := by
  induction ls with
  | nil => exact absurd rfl hne
  | cons l ls ih =>
    obtain ⟨hl, hls⟩ := List.forall_mem_cons.mp h
    cases ls with
    | nil => exact lines_eq_singleton hl
    | cons m ms =>
      have hback : lines ('\n' :: joinLines (m :: ms)) = [] :: m :: ms := by
        rw [lines_newline, ih (List.cons_ne_nil m ms) hls]
      simpa [joinLines] using lines_append_of_not_mem hl hback

/-- Where joined lines meet there is one more line feed. -/
theorem joinLines_append {ls ms : List (List Char)} (hls : ls ≠ []) (hms : ms ≠ []) :
    joinLines (ls ++ ms) = joinLines ls ++ '\n' :: joinLines ms := by
  induction ls with
  | nil => exact absurd rfl hls
  | cons l ls ih =>
    cases ls with
    | nil =>
      obtain ⟨m, ms, rfl⟩ := List.exists_cons_of_ne_nil hms
      rfl
    | cons k ks =>
      have hrest := ih (List.cons_ne_nil k ks)
      simp only [List.cons_append] at hrest ⊢
      simp [joinLines, hrest]

/-! ## Ranges of lines -/

/-- The lines of a text from one to another. -/
def linesBetween (cs : List Char) (first last : Nat) : List (List Char) :=
  ((lines cs).drop (first - 1)).take (last + 1 - first)

section Ranges

variable {cs : List Char} {first last : Nat}

theorem lineRange_eq_joinLines (hfirst : 1 ≤ first) (hle : first ≤ last) :
    lineRange cs first last = joinLines (linesBetween cs first last) := by
  simp only [lineRange, linesBetween, Nat.max_eq_left hfirst, if_neg (Nat.not_lt.mpr hle)]
  rw [Nat.sub_add_comm hle]

theorem length_linesBetween (hfirst : 1 ≤ first) (hlast : last ≤ countLines cs) :
    (linesBetween cs first last).length = last + 1 - first := by
  rw [linesBetween, List.length_take, List.length_drop, length_lines]
  omega

/-- A range of lines has these lines. -/
theorem lines_lineRange (hfirst : 1 ≤ first) (hle : first ≤ last) (hlast : last ≤ countLines cs) :
    lines (lineRange cs first last) = linesBetween cs first last := by
  rw [lineRange_eq_joinLines hfirst hle]
  refine lines_joinLines (fun hnil => ?_) fun l hl => ?_
  · have hlength := length_linesBetween hfirst hlast
    rw [hnil, List.length_nil] at hlength
    omega
  · exact newline_not_mem_lines (List.mem_of_mem_drop (List.mem_of_mem_take hl))

/-- A range of lines is the lines up to one of them and those after it. -/
theorem linesBetween_append {stop : Nat} (hfirst : 1 ≤ first) (hstop : first ≤ stop)
    (hle : stop ≤ last) :
    linesBetween cs first stop ++ linesBetween cs (stop + 1) last = linesBetween cs first last := by
  have hcount : last + 1 - first = (stop + 1 - first) + (last + 1 - (stop + 1)) := by omega
  have hskip : stop + 1 - 1 = first - 1 + (stop + 1 - first) := by omega
  simp only [linesBetween]
  rw [hcount, List.take_add, List.drop_drop, ← hskip]

/-- Two ranges of which one goes on where the other ends. -/
theorem lineRange_append {stop : Nat} (hfirst : 1 ≤ first) (hstop : first ≤ stop)
    (hlt : stop < last) (hlast : last ≤ countLines cs) :
    lineRange cs first stop ++ '\n' :: lineRange cs (stop + 1) last = lineRange cs first last := by
  have hne (a b : Nat) (ha : 1 ≤ a) (hab : a ≤ b) (hb : b ≤ countLines cs) :
      linesBetween cs a b ≠ [] := by
    rw [← lines_lineRange ha hab hb]
    exact lines_ne_nil _
  rw [lineRange_eq_joinLines hfirst hstop, lineRange_eq_joinLines (Nat.le_add_left 1 stop) hlt,
    lineRange_eq_joinLines hfirst (by omega), ← linesBetween_append hfirst hstop (Nat.le_of_lt hlt),
    joinLines_append (hne first stop hfirst hstop (by omega))
      (hne (stop + 1) last (Nat.le_add_left 1 stop) hlt hlast)]

/-- What is cut off the end of a range of lines is cut off the last line that is left.  The lines
before that one are complete. -/
theorem lines_of_beginning (hfirst : 1 ≤ first) (hle : first ≤ last) (hlast : last ≤ countLines cs)
    {front : List Char} (h : front <+: lineRange cs first last) :
    ∃ full part line, lines front = full ++ [part] ∧ first + full.length ≤ last ∧
      full = linesBetween cs first (first + full.length - 1) ∧
      (lines cs)[first + full.length - 1]? = some line ∧ part <+: line := by
  obtain ⟨back, hback⟩ := h
  obtain ⟨full, part, hfront⟩ := exists_lines front
  obtain ⟨rest, more, hrest⟩ := List.exists_cons_of_ne_nil (lines_ne_nil back)
  have hall := lines_append hfront hrest
  have hlength := length_linesBetween hfirst hlast
  rw [hback, lines_lineRange hfirst hle hlast] at hall
  rw [hall, List.length_append, List.length_cons] at hlength
  have hinside : first + full.length ≤ last := by omega
  refine ⟨full, part, part ++ rest, hfront, hinside, ?_, ?_, List.prefix_append part rest⟩
  · have hfull : (linesBetween cs first last).take full.length = full := by
      rw [hall, List.take_left]
    rw [linesBetween, List.take_take, Nat.min_eq_left (by omega)] at hfull
    rw [linesBetween, show first + full.length - 1 + 1 - first = full.length by omega, hfull]
  · have hline : (linesBetween cs first last)[full.length]? = some (part ++ rest) := by
      simp [hall]
    rw [linesBetween, List.getElem?_take_of_lt (by omega), List.getElem?_drop] at hline
    rw [← hline, show first - 1 + full.length = first + full.length - 1 by omega]

end Ranges

end ContextIndex.Text
