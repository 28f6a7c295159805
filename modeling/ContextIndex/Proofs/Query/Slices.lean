import ContextIndex.Proofs.Extract.Settled
import ContextIndex.Proofs.Query.Batches
import ContextIndex.Proofs.Query.Context
import ContextIndex.Proofs.Text.Lines

/-!
# What a file query says of its answer

A part of a file is a range of its lines, and there are four ways to come to one (`Selects`).  Each
of them gives a range that lies in the file: a row holds no other symbols, and the shared filter
leaves no other declarations.

The last line of an answer is counted from the text that is left of the part.  It is the line on
which that text ends, wherever the cut falls: behind a line feed the text ends on a line of which
nothing is left, and where nothing is left at all it ends on the first line (`sliced_of_lt`).
`fileQuery_describes` puts this together for whatever store the query is asked of.
-/

namespace ContextIndex

/-! ## Cuts -/

namespace Token

/-- The longest beginning of a text that costs at most a budget. -/
structure Longest (text : List Char) (budget : Nat) (kept : List Char) : Prop where
  beginning : kept <+: text
  affordable : estimate kept ≤ budget
  longest : ∀ front, front <+: text → estimate front ≤ budget → front <+: kept

theorem longest_truncate {text : List Char} (h : text.length < wordBound) (budget : Nat) :
    Longest text budget (truncate text budget) := by
  refine ⟨List.take_prefix _ _, estimate_truncate_le text budget, fun front hfront hcost => ?_⟩
  refine List.prefix_of_prefix_length_le hfront (List.take_prefix _ _) ?_
  have hlength := hfront.length_le
  have hbound : text.length ≤ maxWord := Nat.le_pred_of_lt h
  show front.length ≤ (truncate text budget).length
  rw [length_truncate]
  simp only [estimate, costOfLength, charsPerToken] at *
  omega

end Token

namespace Query

/-! ## Selections -/

/-- The lines that a part of a file stands for. -/
inductive Selects (f : FileRow) : FileSelector → Nat → Nat → Prop
  | whole : Selects f .whole 1 (Text.countLines f.content.toList)
  | lines {first last : Nat} : 1 ≤ first → first ≤ last →
    first ≤ Text.countLines f.content.toList →
    Selects f (.lines first last) first (min last (Text.countLines f.content.toList))
  | stored {name : String} {y : Symbol} : FirstNamed f name (fun _ => True) y →
    Selects f (.function name) y.first y.last
  | extracted {name : String} {before after : List Declaration} {d : Declaration} :
    (∀ y ∈ f.symbols, y.name ≠ name) →
    Extract.declarations f.content f.language = before ++ d :: after → d.name = name →
    (∀ e ∈ before, e.name ≠ name) → Selects f (.function name) d.first d.last

section Selections

variable {f : FileRow} {part : FileSelector} {first last : Nat}

theorem selects_of_selectRange (hf : f.Measured) (h : selectRange f part = .ok (first, last)) :
    Selects f part first last := by
  cases part with
  | whole =>
    simp only [selectRange, hf.lineCount, Except.ok.injEq, Prod.mk.injEq] at h
    obtain ⟨rfl, rfl⟩ := h
    exact .whole
  | lines a b =>
    rw [selectRange, hf.lineCount] at h
    split at h
    · cases h
    · split at h
      · cases h
      · next hasked hinside =>
        cases h
        exact .lines (by omega) (by omega) (by omega)
  | function name =>
    rw [selectRange] at h
    cases hfind : Store.findSymbol f name [] with
    | some y =>
      simp only [hfind, Except.ok.injEq, Prod.mk.injEq] at h
      obtain ⟨rfl, rfl⟩ := h
      exact .stored ((firstNamed_of_findSymbol hfind).imp fun k => by simp)
    | none =>
      simp only [hfind] at h
      split at h
      · next d hd =>
        cases h
        obtain ⟨hname, before, after, hall, hbefore⟩ := List.find?_eq_some_iff_append.mp hd
        refine .extracted (fun y hy hyname => ?_) hall (by simpa using hname)
          (by simpa using hbefore)
        have hsorted : y ∈ Store.sortedSymbols f := (List.mergeSort_perm _ _).mem_iff.mpr hy
        have hnone := List.find?_eq_none.mp hfind y hsorted
        simp [hyname] at hnone
      · cases h

/-- A part of a file lies in it. -/
theorem Selects.range (hf : f.Measured) (h : Selects f part first last) :
    1 ≤ first ∧ first ≤ last ∧ last ≤ Text.countLines f.content.toList := by
  cases h with
  | whole => exact ⟨Nat.le_refl 1, Nat.le_add_left 1 _, Nat.le_refl _⟩
  | lines hfirst hle hinside => exact ⟨hfirst, Nat.le_min.mpr ⟨hle, hinside⟩, Nat.min_le_right _ _⟩
  | stored hfirst =>
    have hlies := hf.symbols _ hfirst.mem
    exact ⟨hlies.first, hlies.ordered, hlies.last⟩
  | @extracted _ before _ d _ hall =>
    have hmem : d ∈ Extract.settle (Extract.rawDeclarations f.content f.language)
        (Text.countLines f.content.toList) := by
      rw [← Extract.declarations, hall]
      exact List.mem_append_right before List.mem_cons_self
    exact Extract.mem_settle hmem

end Selections

/-! ## Answers -/

/-- What an answer says of the lines of a file from one to another is so. -/
structure Sliced (f : FileRow) (first last budget : Nat) (e : Envelope FileSlice) : Prop where
  path : e.data.path = f.path
  language : e.data.language = f.language
  lineCount : e.data.lineCount = Text.countLines f.content.toList
  start : e.data.first = first
  range : 1 ≤ e.data.first ∧ e.data.first ≤ e.data.last ∧ e.data.last ≤ e.data.lineCount
  lines : (Text.lines e.data.content.toList).length = e.data.last - e.data.first + 1
  /-- Something is cut off exactly if the lines cost more than the budget. -/
  truncated : e.truncated = true ↔
    budget < Token.estimate (Text.lineRange f.content.toList first last)
  /-- Else they are all there. -/
  whole : e.truncated = false → e.data.last = last ∧
    Text.lines e.data.content.toList =
      Text.linesBetween f.content.toList e.data.first e.data.last
  /-- As much as the budget allows is left. -/
  longest : e.truncated = true → Token.Longest
    (Text.lineRange f.content.toList first last) budget e.data.content.toList
  /-- The lines that are left are complete, but for the last one. -/
  complete : e.truncated = true → ∃ part line, Text.lines e.data.content.toList =
      Text.linesBetween f.content.toList e.data.first (e.data.last - 1) ++ [part] ∧
    (Text.lines f.content.toList)[e.data.last - 1]? = some line ∧ part <+: line
  cost : e.totalTokens = Token.cost e.data.content
  bounded : e.totalTokens ≤ budget
  spent : e.truncated = true → e.totalTokens = budget

section Answers

variable {f : FileRow} {part : FileSelector} {first last budget : Nat}

theorem sliced_of_le (hf : f.Measured) (hselect : selectRange f part = .ok (first, last))
    (hfits : Token.estimate (linesOf f first last) ≤ budget) :
    ∃ e, sliceOf f part budget = .ok e ∧ Sliced f first last budget e := by
  obtain ⟨hfirst, hle, hlast⟩ := (selects_of_selectRange hf hselect).range hf
  have hlines : Text.lines (linesOf f first last) =
      Text.linesBetween f.content.toList first last := Text.lines_lineRange hfirst hle hlast
  refine ⟨_, sliceOf_of_le hselect hfits, ?_⟩
  constructor <;> dsimp only
  case lineCount => exact hf.lineCount
  case range => exact ⟨hfirst, hle, hf.lineCount ▸ hlast⟩
  case lines =>
    rw [String.toList_ofList, hlines, Text.length_linesBetween hfirst hlast]
    omega
  case truncated => exact iff_of_false nofun (Nat.not_lt.mpr hfits)
  case whole =>
    rw [String.toList_ofList]
    exact fun _ => ⟨rfl, hlines⟩
  case longest | complete | spent => nofun
  case cost => exact (Token.cost_ofList _).symm
  case bounded => exact hfits

theorem sliced_of_lt (hf : f.Measured) (hsize : f.content.length < wordBound)
    (hselect : selectRange f part = .ok (first, last))
    (hover : budget < Token.estimate (linesOf f first last)) :
    ∃ e, sliceOf f part budget = .ok e ∧ Sliced f first last budget e := by
  obtain ⟨hfirst, hle, hlast⟩ := (selects_of_selectRange hf hselect).range hf
  have hlength : (linesOf f first last).length < wordBound := by
    refine Nat.lt_of_le_of_lt (Text.length_lineRange_le _ _ _) ?_
    rwa [String.length_toList]
  have hlongest := Token.longest_truncate hlength budget
  have hspent : Token.estimate (Token.truncate (linesOf f first last) budget) = budget := by
    rw [Token.estimate_truncate hlength]
    exact Nat.min_eq_right (Nat.le_of_lt hover)
  -- The complete lines of what is left, and the beginning of the line on which it ends.
  obtain ⟨full, part, line, hlines, hinside, hfull, hline, hpart⟩ :=
    Text.lines_of_beginning hfirst hle hlast hlongest.beginning
  have hcount : Text.countLines (Token.truncate (linesOf f first last) budget) =
      full.length + 1 := by
    rw [← Text.length_lines, hlines, List.length_append, List.length_singleton]
  refine ⟨_, sliceOf_of_lt hselect hover, ?_⟩
  constructor <;> simp only [hcount, Nat.add_succ_sub_one, String.toList_ofList]
  case lineCount => exact hf.lineCount
  case range => exact ⟨hfirst, Nat.le_add_right _ _, hf.lineCount ▸ Nat.le_trans hinside hlast⟩
  case lines =>
    rw [hlines, List.length_append, List.length_singleton, Nat.add_sub_cancel_left]
  case truncated => exact iff_of_true trivial hover
  case whole => nofun
  case longest => exact fun _ => hlongest
  case complete => exact fun _ => ⟨part, line, hfull ▸ hlines, hline, hpart⟩
  case cost => exact (Token.cost_ofList _).symm
  case bounded => exact Nat.le_of_eq hspent
  case spent => exact fun _ => hspent

/-- A query that is answered has found the repository and the file. -/
theorem fileQuery_cases {s : Store} {repo : RepoId} {path : String} {e : Envelope FileSlice}
    (h : fileQuery s repo path part budget = .ok e) :
    ∃ row f, s.getRepo repo = .ok (some row) ∧ s.file? row.id path = some f ∧
      sliceOf f part budget = .ok e := by
  cases hrow : requireRepo s repo with
  | error e => simp [fileQuery, hrow] at h
  | ok row =>
    cases hfile : requireFile s row path with
    | error e => simp [fileQuery, hrow, hfile] at h
    | ok f =>
      simp only [fileQuery, hrow, hfile] at h
      exact ⟨row, f, getRepo_of_requireRepo hrow, file?_of_requireFile hfile, h⟩

/-- A file query that is answered describes its answer, whatever the store has gone through: the
file is the one at the path, the lines are those that the part stands for, and what is said of them
is so.  The texts that are written are of a length that is a 64-bit quantity. -/
theorem fileQuery_describes {ops : List Store.Operation}
    (hops : ∀ o ∈ ops, o.Writes fun x => x.content.length < wordBound) {repo : RepoId}
    {path : String} {e : Envelope FileSlice}
    (h : fileQuery (Store.after ops) repo path part budget = .ok e) :
    ∃ row f first last, (Store.after ops).getRepo repo = .ok (some row) ∧
      (Store.after ops).file? row.id path = some f ∧ f.path = path ∧
      Selects f part first last ∧ Sliced f first last budget e := by
  have hrows : (Store.after ops).AllRows fun f => f.Measured ∧ f.content.length < wordBound :=
    Store.AllRows.after (fun x hx id now => ⟨x.row_measured id now, hx⟩) hops
  obtain ⟨row, f, hrow, hfile, hslice⟩ := fileQuery_cases h
  obtain ⟨hpath, hf, hsize⟩ := hrows.file? hfile
  cases hselect : selectRange f part with
  | error e => simp [sliceOf, hselect] at hslice
  | ok range =>
    obtain ⟨first, last⟩ := range
    obtain ⟨e', hslice', hsliced⟩ : ∃ e, sliceOf f part budget = .ok e ∧
        Sliced f first last budget e := by
      by_cases hfits : Token.estimate (linesOf f first last) ≤ budget
      · exact sliced_of_le hf hselect hfits
      · exact sliced_of_lt hf hsize hselect (Nat.not_le.mp hfits)
    cases hslice'.symm.trans hslice
    exact ⟨row, f, first, last, hrow, hfile, hpath, selects_of_selectRange hf hselect, hsliced⟩

end Answers

/-- A file with letters of more bytes than one. -/
def greek : List Store.Operation :=
  [.insertRepo ⟨"octo", "widgets"⟩ {},
    .writeFile 1 ⟨"a.py", "α = 1\nβ = 22\nγ = 333\n", "v1", "regex@1", []⟩ ⟨0⟩ false]

theorem fileQuery_describes_greek :
    (∀ o ∈ greek, o.Writes fun x => x.content.length < wordBound) ∧
      ∃ e, fileQuery (Store.after greek) ⟨"octo", "widgets"⟩ "a.py" (.lines 2 9) 2 = .ok e ∧
        e.data.content = "β = 22\nγ" ∧ e.data.first = 2 ∧ e.data.last = 3 ∧ e.truncated = true ∧
        ∃ f first last, f.path = "a.py" ∧ Selects f (.lines 2 9) first last ∧
          Sliced f first last 2 e := by
  have hops : ∀ o ∈ greek, o.Writes fun x => x.content.length < wordBound := by
    simp only [greek, List.forall_mem_cons]
    refine ⟨trivial, ?_, nofun⟩
    show "α = 1\nβ = 22\nγ = 333\n".length < wordBound
    decide
  have hanswer :
      (fileQuery (Store.after greek) ⟨"octo", "widgets"⟩ "a.py" (.lines 2 9) 2).toOption.map
        (fun e => (e.data.content, e.data.first, e.data.last, e.truncated)) =
          some ("β = 22\nγ", 2, 3, true) := by
    decide +kernel
  cases hquery : fileQuery (Store.after greek) ⟨"octo", "widgets"⟩ "a.py" (.lines 2 9) 2 with
  | error e =>
    rw [hquery] at hanswer
    cases hanswer
  | ok e =>
    rw [hquery] at hanswer
    obtain ⟨hcontent, hfirst, hlast, hcut⟩ : _ ∧ _ ∧ _ ∧ _ := by
      simpa [Except.toOption] using hanswer
    obtain ⟨row, f, first, last, -, -, hpath, hselects, hsliced⟩ := fileQuery_describes hops hquery
    exact ⟨hops, e, rfl, hcontent, hfirst, hlast, hcut, f, first, last, hpath, hselects, hsliced⟩

end Query

end ContextIndex
