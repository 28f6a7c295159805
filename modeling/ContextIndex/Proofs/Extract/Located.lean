import Mathlib
import ContextIndex.Extract.Scan
import ContextIndex.Proofs.Extract.Braces
import ContextIndex.Proofs.Extract.Captures
import ContextIndex.Proofs.Text.Lines

/-!
# Where declarations are found

A line can be told in two ways: the text is cut at its line feeds, or the bytes are listed at which
lines start (`lineStarts`) and the line of a byte is found by how many of them are not behind it.  A
layout counts lines and columns from the characters.  All three agree on every place of every text:
what a layout says of a place splits the starts of the lines (`onLine_foldl`), and the lines go on
from there with what follows in the text (`goesOn_foldl`).

`rawDeclarations_located` draws on this for what the rules find.  The name stands on the first line
of the declaration, at the byte from which its body is scanned, and the range lies in the file.
-/

namespace ContextIndex

/-! ## Bytes -/

namespace Text

@[simp] theorem byteLength_append (front back : List Char) :
    byteLength (front ++ back) = byteLength front + byteLength back := by
  induction front with
  | nil => simp [byteLength]
  | cons c front ih => simp [byteLength, ih, Nat.add_assoc]

@[simp] theorem byteLength_singleton (c : Char) : byteLength [c] = c.utf8Size := by
  simp [byteLength]

/-- White space in front and the rest make up a line. -/
theorem byteLength_trimStart (line : List Char) :
    indent line + byteLength (trimStart line) = byteLength line := by
  rw [indent, trimStart, ← byteLength_append, List.takeWhile_append_dropWhile]

end Text

namespace Extract

open Text (byteLength)

/-! ## Starts of lines -/

/-- The bytes behind the line feeds of a text that begins at a byte. -/
def behindNewlines (pos : Nat) : List Char → List Nat
  | [] => []
  | c :: cs =>
    if c = '\n' then (pos + 1) :: behindNewlines (pos + c.utf8Size) cs
    else behindNewlines (pos + c.utf8Size) cs

/-- The bytes at which the lines of a text start. -/
def lineStarts (text : List Char) : List Nat :=
  0 :: behindNewlines 0 text

theorem behindNewlines_append (pos : Nat) (front back : List Char) :
    behindNewlines pos (front ++ back) =
      behindNewlines pos front ++ behindNewlines (pos + byteLength front) back := by
  induction front generalizing pos with
  | nil => rfl
  | cons c front ih =>
    simp only [List.cons_append, behindNewlines, ih, byteLength, Nat.add_assoc]
    split <;> rfl

theorem mem_behindNewlines {pos start : Nat} {cs : List Char} (h : start ∈ behindNewlines pos cs) :
    pos < start ∧ start ≤ pos + byteLength cs := by
  induction cs generalizing pos with
  | nil => cases h
  | cons c cs ih =>
    have hsize : 0 < c.utf8Size := Char.utf8Size_pos c
    have later (h : start ∈ behindNewlines (pos + c.utf8Size) cs) :
        pos < start ∧ start ≤ pos + byteLength (c :: cs) := by
      obtain ⟨hlt, hle⟩ := ih h
      rw [byteLength]
      omega
    rw [behindNewlines] at h
    split at h
    · obtain rfl | h := List.mem_cons.mp h
      · rw [byteLength]
        omega
      · exact later h
    · exact later h

theorem lineStarts_append (front back : List Char) :
    lineStarts (front ++ back) = lineStarts front ++ behindNewlines (byteLength front) back := by
  simp [lineStarts, behindNewlines_append]

theorem le_of_mem_lineStarts {start : Nat} {text : List Char} (h : start ∈ lineStarts text) :
    start ≤ byteLength text := by
  obtain rfl | h := List.mem_cons.mp h
  · exact Nat.zero_le _
  · simpa using (mem_behindNewlines h).2

/-! ## Places -/

/-- At the end of a text, its lines, the starts of its lines and a count of its characters agree: on
the number of lines before the last one, and on the bytes of that. -/
theorem foldl_after (front : List Char) : ∃ full part starts start,
    Text.lines front = full ++ [part] ∧ lineStarts front = starts ++ [start] ∧
      starts.length = full.length ∧ start + byteLength part = byteLength front ∧
      front.foldl Spot.after .start = ⟨full.length + 1, byteLength part⟩ := by
  -- A place moves on behind one more character, so the text grows at its end.
  induction front using List.reverseRecOn with
  | nil => exact ⟨[], [], [], 0, rfl, rfl, rfl, rfl, rfl⟩
  | append_singleton front c ih =>
    obtain ⟨full, part, starts, start, hlines, hstarts, hlength, hbytes, hspot⟩ := ih
    by_cases hc : c = '\n'
    · subst hc
      refine ⟨full ++ [part], [], starts ++ [start], byteLength front + 1, ?_, ?_, ?_, ?_, ?_⟩
      · simpa using Text.lines_append hlines (Text.lines_newline [])
      · rw [lineStarts_append, hstarts]
        simp [behindNewlines]
      · simp [hlength]
      · simp [byteLength, Char.utf8Size]
      · simp [hspot, Spot.after, byteLength]
    · have hback : Text.lines [c] = [[c]] := Text.lines_eq_singleton (by simpa using Ne.symm hc)
      refine ⟨full, part ++ [c], starts, start, Text.lines_append hlines hback, ?_, hlength, ?_, ?_⟩
      · rw [lineStarts_append, hstarts]
        simp [behindNewlines, hc]
      · simp [← hbytes, Nat.add_assoc]
      · simp [hspot, Spot.after, hc]

/-- A byte is on a line and at a column: the starts of the lines up to this one are not behind it
and all others are, and it is that many bytes behind the start of the line. -/
structure OnLine (starts : List Nat) (pos : Nat) (spot : Spot) : Prop where
  first : 1 ≤ spot.line
  split : ∀ i start, starts[i]? = some start → (start ≤ pos ↔ i < spot.line)
  column : ∃ start, starts[spot.line - 1]? = some start ∧ start ≤ pos ∧ spot.column = pos - start

section Place

variable (front back : List Char)

/-- The place counted from the characters before it is the place of its byte. -/
theorem onLine_foldl :
    OnLine (lineStarts (front ++ back)) (byteLength front) (front.foldl Spot.after .start) := by
  obtain ⟨full, part, starts, start, -, hstarts, hlength, hbytes, hspot⟩ := foldl_after front
  have hcount : (lineStarts front).length = full.length + 1 := by simp [hstarts, hlength]
  rw [hspot, lineStarts_append]
  refine ⟨Nat.succ_pos _, fun i s hi => ?_, start, ?_, by omega, by dsimp only; omega⟩
  · rw [List.getElem?_append, hcount] at hi
    split at hi
    · next hlt =>
      exact iff_of_true (le_of_mem_lineStarts (List.mem_of_getElem? hi)) hlt
    · next hlt =>
      have hbehind := (mem_behindNewlines (List.mem_of_getElem? hi)).1
      exact iff_of_false (Nat.not_le.mpr hbehind) hlt
  · rw [hstarts, ← hlength]
    simp

/-- From the place behind some characters on, the lines go on with what follows them. -/
theorem goesOn_foldl : ∃ rest more, Text.lines back = rest :: more ∧
    GoesOn (Text.lines (front ++ back)) (front.foldl Spot.after .start).line
      (front.foldl Spot.after .start).column rest := by
  obtain ⟨full, part, starts, start, hlines, -, -, -, hspot⟩ := foldl_after front
  obtain ⟨rest, more, hback⟩ := List.exists_cons_of_ne_nil (Text.lines_ne_nil back)
  refine ⟨rest, more, hback, ?_⟩
  rw [hspot, Text.lines_append hlines hback]
  exact ⟨Nat.succ_pos _, by simp [Text.dropBytes_append]⟩

end Place

/-! ## Ends of blocks -/

theorem le_scanIndented (base : Nat) {last line : Nat} (h : last ≤ line) (ls : List (List Char)) :
    last ≤ scanIndented base last line ls ∧
      scanIndented base last line ls ≤ line + ls.length := by
  induction ls generalizing last line with
  | nil => exact ⟨Nat.le_refl _, h⟩
  | cons l ls ih =>
    rw [scanIndented, List.length_cons]
    split
    · have := ih (show last ≤ line + 1 by omega)
      omega
    · split
      · omega
      · have := ih (Nat.le_refl (line + 1))
        omega

variable {ls : List (List Char)} {start column : Nat} {rest : List Char}

theorem GoesOn.le_indentedBlockEnd (h : GoesOn ls start column rest) :
    start ≤ indentedBlockEnd ls start ∧ indentedBlockEnd ls start ≤ ls.length := by
  have hle := h.line_le
  obtain ⟨l, hl, -⟩ := Option.bind_eq_some_iff.mp h.dropBytes
  simp only [indentedBlockEnd, hl]
  have hbounds := le_scanIndented (Text.indent l) (Nat.le_refl start) (ls.drop start)
  rw [List.length_drop] at hbounds
  omega

/-- A block that starts at a byte of a line ends on that line or a later one. -/
theorem GoesOn.le_blockEnd (h : GoesOn ls start column rest) (style : BodyStyle) :
    start ≤ blockEnd style ls start column ∧ blockEnd style ls start column ≤ ls.length := by
  cases style with
  | braces =>
    have hend := h.scanned.blockEnd h.line_le h.lines_of_mem
    exact ⟨hend.first_le, hend.le_last⟩
  | indentation => exact h.le_indentedBlockEnd

/-! ## Declarations -/

/-- A declaration that is found in a text. -/
structure Located (style : BodyStyle) (text : List Char) (d : Declaration) : Prop where
  first : 1 ≤ d.first
  ordered : d.first ≤ d.last
  last : d.last ≤ Text.countLines text
  /-- The name stands on the first line, at the byte from which the body is scanned. -/
  named : ∃ before after column rest, text = before ++ (d.name.toList ++ after) ∧
    OnLine (lineStarts text) (byteLength before) ⟨d.first, column⟩ ∧
    GoesOn (Text.lines text) d.first column rest ∧ d.name.toList <+: rest ∧
    d.last = blockEnd style (Text.lines text) d.first column
  signature : ∃ s, d.signature = some s ∧ s.length ≤ maxSignature
  /-- Whether it is kept is up to its name. -/
  acceptable : isAcceptable (Text.countLines text) d = (isIdentifier d.name && !isDenied d.name)

/-- What has a name without line feeds and begins where that stands is located. -/
theorem Located.of_spot {style : BodyStyle} {text : List Char} {d : Declaration} {column : Nat}
    (before after : List Char) (htext : text = before ++ (d.name.toList ++ after))
    (hname : '\n' ∉ d.name.toList) (hspot : before.foldl Spot.after .start = ⟨d.first, column⟩)
    (hlast : d.last = blockEnd style (Text.lines text) d.first column)
    (hsignature : ∃ s, d.signature = some s ∧ s.length ≤ maxSignature) : Located style text d := by
  obtain ⟨rest, more, hback, hgoes⟩ := goesOn_foldl before (d.name.toList ++ after)
  have honLine := onLine_foldl before (d.name.toList ++ after)
  rw [← htext, hspot] at hgoes honLine
  obtain ⟨after', more', hafter⟩ := List.exists_cons_of_ne_nil (Text.lines_ne_nil after)
  obtain ⟨rfl, -⟩ := List.cons.inj
    (hback.symm.trans (Text.lines_append_of_not_mem hname hafter))
  obtain ⟨hfirst, hle⟩ := hgoes.le_blockEnd style
  rw [← hlast] at hfirst hle
  rw [Text.length_lines] at hle
  refine ⟨honLine.first, hfirst, hle, ?_, hsignature, ?_⟩
  · exact ⟨before, after, column, _, htext, honLine, hgoes, List.prefix_append _ _, hlast⟩
  · simp [isAcceptable, hfirst, hle, show 1 ≤ d.first from honLine.first]

theorem located_declarationOf (style : BodyStyle) (kind : SymbolKind) {text : List Char}
    {m : Pattern.Match} (h : Pattern.Captures text m) :
    Located style text (declarationOf style (.ofText text) kind m) := by
  have hle : m.reach.nameStart ≤ text.length :=
    Nat.le_trans (Nat.le_of_lt h.name_lt) (Nat.le_trans h.name_le h.stop_le)
  have hname : (declarationOf style (.ofText text) kind m).name.toList =
      (text.drop m.reach.nameStart).take (m.reach.nameStop - m.reach.nameStart) := by
    simp [declarationOf, Layout.slice_ofText]
  refine .of_spot (text.take m.reach.nameStart)
    ((text.drop m.reach.nameStart).drop (m.reach.nameStop - m.reach.nameStart))
    ?_ ?_ ?_ rfl ⟨_, rfl, ?_⟩
  · rw [hname, List.take_append_drop, List.take_append_drop]
  · rw [hname]
    exact h.newline_not_mem
  · exact (Layout.spotAt_ofText text _ hle).symm
  · rw [String.length_ofList]
    exact length_signatureOf_le _

/-- What the rules of a language find in a text is located in it, so the shared filter drops none of
it for its range.  Nothing on the way is taken from less than there is: neither the start of a line
from a byte on it, nor a brace that closes from those that are open, nor the rest of a line from the
line. -/
theorem rawDeclarations_located (content language : String) :
    (∀ d ∈ rawDeclarations content language, ∃ table, tableFor? language = some table ∧
      Located table.body content.toList d) ∧
    (∀ cs depth, BraceScan.run (.unseen 0) cs = some (.inside depth) → 1 ≤ depth) ∧
    ∀ line, byteLength (Text.trimStart line) ≤ byteLength line ∧
      Text.indent line = byteLength line - byteLength (Text.trimStart line) := by
  refine ⟨fun d hd => ?_, fun cs depth hrun => ?_, fun line => ?_⟩
  · obtain ⟨table, rule, m, htable, hrule, hm, rfl⟩ := exists_match_of_mem hd
    have hcaptures := Pattern.captures_of_mem (marksWord_of_mem_rules htable hrule) hm
    exact ⟨table, htable, located_declarationOf table.body rule.kind hcaptures⟩
  · exact (reached_nothing.run hrun).depth_pos
  · have := Text.byteLength_trimStart line
    omega

/-- A class behind a comment of more bytes than characters, which is left open. -/
def unclosed : String :=
  "let ö = 1;\n/* é */ class Größe \x7b\n  m() \x7b \x7d\n"

theorem rawDeclarations_unclosed : rawDeclarations unclosed "javascript" =
    [⟨"m", .function, 3, 3, some "m()", none⟩,
      ⟨"Größe", .classType, 2, 4, some "class Größe", none⟩] := by
  unfold unclosed
  cbv

theorem rawDeclarations_located_unclosed :
    ⟨"Größe", .classType, 2, 4, some "class Größe", none⟩ ∈ rawDeclarations unclosed "javascript" ∧
      lineStarts unclosed.toList = [0, 12, 37, 47] ∧ ∃ table, tableFor? "javascript" = some table ∧
        Located table.body unclosed.toList
          ⟨"Größe", .classType, 2, 4, some "class Größe", none⟩ := by
  have hmem : ⟨"Größe", .classType, 2, 4, some "class Größe", none⟩ ∈
      rawDeclarations unclosed "javascript" := by
    rw [rawDeclarations_unclosed]
    decide
  refine ⟨hmem, ?_, (rawDeclarations_located unclosed "javascript").1 _ hmem⟩
  unfold unclosed
  cbv

end Extract

end ContextIndex
