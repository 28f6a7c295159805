import ContextIndex.Proofs.Query.Slices

/-!
# Reading a file in parts

Ranges of lines can follow one another without a gap from one line to another (`Text.Tiles`).  Put
together by line feeds they are the lines from the one to the other (`Text.Tiles.joinLines_eq`), so
a file that is read in parts is read as a whole.

`parts_joined` says this of file queries, each under a budget that its part fits, and of a batch.  A
batch wants the path of a file to have a name, and every query a repository that can be read
(`parts_unanswered`).
-/

namespace ContextIndex

/-! ## Ranges that follow one another -/

namespace Text

/-- Ranges that cover the lines from one to another, each starting behind the one before it. -/
inductive Tiles : Nat → Nat → List (Nat × Nat) → Prop
  | one {first last : Nat} : first ≤ last → Tiles first last [(first, last)]
  | cons {first stop last : Nat} {parts : List (Nat × Nat)} : first ≤ stop →
    Tiles (stop + 1) last parts → Tiles first last ((first, stop) :: parts)

section Tilings

variable {first last : Nat} {parts : List (Nat × Nat)}

theorem Tiles.ne_nil (h : Tiles first last parts) : parts ≠ [] := by
  cases h <;> exact List.cons_ne_nil _ _

theorem Tiles.le (h : Tiles first last parts) : first ≤ last := by
  induction h with
  | one hle => exact hle
  | cons hle _ ih => omega

/-- Each of the ranges lies between the two lines. -/
theorem Tiles.range (h : Tiles first last parts) {p : Nat × Nat} (hp : p ∈ parts) :
    first ≤ p.1 ∧ p.1 ≤ p.2 ∧ p.2 ≤ last := by
  induction h with
  | one hle =>
    obtain rfl := List.mem_singleton.mp hp
    exact ⟨Nat.le_refl _, hle, Nat.le_refl _⟩
  | cons hle hrest ih =>
    have hlast := hrest.le
    cases hp with
    | head => exact ⟨Nat.le_refl _, hle, by omega⟩
    | tail _ hp =>
      obtain ⟨hfirst, hrange⟩ := ih hp
      exact ⟨by omega, hrange⟩

/-- The ranges put together are the lines that they cover. -/
theorem Tiles.joinLines_eq (h : Tiles first last parts) {cs : List Char} (hfirst : 1 ≤ first)
    (hlast : last ≤ countLines cs) :
    joinLines (parts.map fun p => lineRange cs p.1 p.2) = lineRange cs first last := by
  induction h with
  | one _ => rfl
  | @cons first stop last parts hle hrest ih =>
    have hmore : (parts.map fun p => lineRange cs p.1 p.2) ≠ [] :=
      mt List.map_eq_nil_iff.mp hrest.ne_nil
    calc joinLines (lineRange cs first stop :: parts.map fun p => lineRange cs p.1 p.2)
        = lineRange cs first stop ++ '\n' :: joinLines (parts.map fun p => lineRange cs p.1 p.2) :=
          joinLines_append (List.cons_ne_nil (lineRange cs first stop) []) hmore
      _ = lineRange cs first stop ++ '\n' :: lineRange cs (stop + 1) last := by
          rw [ih (Nat.le_add_left 1 stop) hlast]
      _ = lineRange cs first last := lineRange_append hfirst hle hrest.le hlast

end Tilings

end Text

namespace Query

/-! ## Parts and items -/

/-- The item of a batch that asks for lines of a file. -/
def partItem (path : String) (p : Nat × Nat) : BatchItem :=
  { path, first := some p.1, last := some p.2 }

/-- The entry of a batch for lines of a file. -/
def partEntry (f : FileRow) (p : Nat × Nat) : BatchEntry :=
  { path := f.path, content := String.ofList (linesOf f p.1 p.2), language := f.language
    lineCount := f.lineCount, first := p.1, last := p.2 }

/-- The cost of lines of a file. -/
def partCost (f : FileRow) (p : Nat × Nat) : Nat :=
  Token.estimate (linesOf f p.1 p.2)

section Parts

variable {s : Store} {repo : RepoId} {row : RepoRow} {path : String} {f : FileRow}

/-- Lines of a file that fit the budget are answered whole. -/
theorem fileQuery_part (hrow : requireRepo s repo = .ok row)
    (hfile : s.file? row.id path = some f) {p : Nat × Nat}
    (hp : 1 ≤ p.1 ∧ p.1 ≤ p.2 ∧ p.2 ≤ f.lineCount) {budget : Nat} (hfits : partCost f p ≤ budget) :
    ∃ e, fileQuery s repo path (.lines p.1 p.2) budget = .ok e ∧
      e.data.content = String.ofList (linesOf f p.1 p.2) := by
  obtain ⟨hfirst, hle, hlast⟩ := hp
  have hasked : ¬(p.1 = 0 ∨ p.2 < p.1) := by omega
  have hinside : ¬f.lineCount < p.1 := by omega
  have hselect : selectRange f (.lines p.1 p.2) = .ok (p.1, p.2) := by
    simp only [selectRange, if_neg hasked, if_neg hinside, Nat.min_eq_left hlast]
  have hquery : fileQuery s repo path (.lines p.1 p.2) budget =
      sliceOf f (.lines p.1 p.2) budget := by
    rw [fileQuery_of_repo hrow, hfile]
  exact ⟨_, hquery.trans (sliceOf_of_le hselect hfits), rfl⟩

/-- A batch serves lines of a file that fit the rest of its budget. -/
theorem serve_part (hpath : path ≠ "") (hfile : s.file? row.id path = some f) {p : Nat × Nat}
    (hp : 1 ≤ p.1 ∧ p.1 ≤ p.2 ∧ p.2 ≤ f.lineCount) {a : Allocator}
    (hfits : partCost f p ≤ a.remaining) :
    serve s row (partItem path p) a = .ok (partEntry f p, a.charge (partCost f p), false) := by
  obtain ⟨hfirst, hle, hlast⟩ := hp
  have hnamed : ¬path.isEmpty = true := by simpa using hpath
  have hvalid : ¬(p.1 = 0 ∨ p.2 < p.1) := by omega
  have hspend : a.trySpend (partCost f p) = some (a.charge (partCost f p)) :=
    if_neg (Nat.not_lt.mpr hfits)
  simp only [partCost] at hspend
  simp only [serve, partItem, if_neg hnamed, hfile, serveFile, BatchItem.range,
    Nat.min_eq_left hlast, if_neg hvalid, hspend]
  rfl

/-- A batch serves all parts of a file if they fit together. -/
theorem serveAll_parts (hpath : path ≠ "") (hfile : s.file? row.id path = some f)
    {parts : List (Nat × Nat)} (hparts : ∀ p ∈ parts, 1 ≤ p.1 ∧ p.1 ≤ p.2 ∧ p.2 ≤ f.lineCount)
    {a : Allocator} (hfits : total (parts.map (partCost f)) ≤ a.remaining) :
    serveAll s row (parts.map (partItem path)) a =
      .ok (parts.map (partEntry f), a.charge (total (parts.map (partCost f))), 0) := by
  induction parts generalizing a with
  | nil => rfl
  | cons p parts ih =>
    obtain ⟨hp, hrest⟩ := List.forall_mem_cons.mp hparts
    have hsum : partCost f p + total (parts.map (partCost f)) ≤ a.remaining := hfits
    have hserve := @serve_part _ row _ _ hpath hfile _ hp _ (Nat.le_of_add_right_le hsum)
    have hleft : total (parts.map (partCost f)) ≤ (a.charge (partCost f p)).remaining := by
      rw [Allocator.remaining_charge]
      omega
    simp only [List.map_cons, serveAll, hserve, ih hrest hleft, Allocator.charge_charge, total]
    rfl

theorem batchQuery_parts (hrow : requireRepo s repo = .ok row)
    (hfile : s.file? row.id path = some f) (hpath : path ≠ "") {parts : List (Nat × Nat)}
    (hparts : ∀ p ∈ parts, 1 ≤ p.1 ∧ p.1 ≤ p.2 ∧ p.2 ≤ f.lineCount) (hsome : parts ≠ [])
    (hmost : parts.length ≤ 20) {maxTokens : Nat}
    (hfits : total (parts.map (partCost f)) ≤ maxTokens) :
    ∃ result, batchQuery s repo (parts.map (partItem path)) maxTokens = .ok result ∧
      result.data.entries = parts.map (partEntry f) := by
  have hempty : ¬(parts.map (partItem path)).isEmpty = true := by simpa using hsome
  have hsize : ¬maxBatch < (parts.map (partItem path)).length := by simpa [maxBatch] using hmost
  have hserved := @serveAll_parts _ row _ _ hpath hfile _ hparts { budget := maxTokens } hfits
  refine ⟨(Allocator.charge { budget := maxTokens } (total (parts.map (partCost f)))).finish
    ⟨parts.map (partEntry f), total (parts.map (partCost f))⟩, ?_, rfl⟩
  unfold batchQuery
  rw [if_neg hempty, if_neg hsize, hrow]
  simp only [hserved]
  simp

end Parts

/-! ## The whole file -/

/-- A file that is read in parts is read as a whole.  Its content is put together by line feeds from
the answers to queries for the parts, each under a budget that the part fits, and a batch of up to
twenty parts that fit together gives the same texts, unless the path of the file is empty. -/
theorem parts_joined (ops : List Store.Operation) {s : Store} (hs : s = Store.after ops)
    {repo : RepoId} {row : RepoRow} (hrow : requireRepo s repo = .ok row) {path : String}
    {f : FileRow} (hfile : s.file? row.id path = some f) {parts : List (Nat × Nat)}
    (hparts : Text.Tiles 1 f.lineCount parts) :
    ∃ contents : List String,
      Text.joinLines (contents.map String.toList) = f.content.toList ∧
      (∀ budget : Nat × Nat → Nat, (∀ p ∈ parts, partCost f p ≤ budget p) →
        ∃ answers, List.Forall₂
            (fun p e => fileQuery s repo path (.lines p.1 p.2) (budget p) = .ok e) parts answers ∧
          answers.map (fun e => e.data.content) = contents) ∧
      (path ≠ "" → parts.length ≤ 20 → ∀ maxTokens, total (parts.map (partCost f)) ≤ maxTokens →
        ∃ result, batchQuery s repo (parts.map (partItem path)) maxTokens = .ok result ∧
          result.data.entries.map BatchEntry.content = contents ∧
          ∀ entry ∈ result.data.entries, entry.error = none) := by
  have hrows : s.AllRows FileRow.Measured := by
    rw [hs]
    exact Store.AllRows.after (Q := fun _ => True) (fun x _ => x.row_measured) fun o _ => by
      cases o <;> trivial
  have hf : f.Measured := (hrows.file? hfile).2
  refine ⟨parts.map fun p => String.ofList (linesOf f p.1 p.2), ?_, ?_, ?_⟩
  · have hjoined := hparts.joinLines_eq (Nat.le_refl 1) (Nat.le_of_eq hf.lineCount)
    rw [hf.lineCount, Text.lineRange_all] at hjoined
    simpa only [linesOf, List.map_map, Function.comp_def, String.toList_ofList] using hjoined
  · intro budget hfits
    have hanswer : ∀ p ∈ parts, ∃ e, fileQuery s repo path (.lines p.1 p.2) (budget p) = .ok e ∧
        e.data.content = String.ofList (linesOf f p.1 p.2) :=
      fun p hp => fileQuery_part hrow hfile (hparts.range hp) (hfits p hp)
    clear hparts hfits
    induction parts with
    | nil => exact ⟨[], .nil, rfl⟩
    | cons p parts ih =>
      obtain ⟨⟨e, he, hcontent⟩, hrest⟩ := List.forall_mem_cons.mp hanswer
      obtain ⟨answers, hall, hcontents⟩ := ih hrest
      exact ⟨e :: answers, .cons he hall, congrArg₂ List.cons hcontent hcontents⟩
  · intro hpath hmost maxTokens hfits
    obtain ⟨result, hok, hentries⟩ := batchQuery_parts hrow hfile hpath
      (fun _ hp => hparts.range hp) hparts.ne_nil hmost hfits
    refine ⟨result, hok, ?_, ?_⟩
    · simp [hentries, partEntry, Function.comp_def]
    · intro entry hentry
      rw [hentries] at hentry
      obtain ⟨p, -, rfl⟩ := List.mem_map.mp hentry
      rfl

/-- A file with an empty line, a carriage return and a line feed at its end. -/
def uneven : Store.FileWrite :=
  ⟨"a.txt", "a\n\nb\r\nc\n", "v1", "regex@1", []⟩

theorem parts_joined_uneven :
    ∃ s row f, s = Store.after [.insertRepo ⟨"octo", "widgets"⟩ {}, .writeFile 1 uneven ⟨0⟩ false] ∧
      requireRepo s ⟨"octo", "widgets"⟩ = .ok row ∧ s.file? row.id "a.txt" = some f ∧
      Text.Tiles 1 f.lineCount [(1, 2), (3, 3), (4, 5)] ∧
      ∃ result, batchQuery s ⟨"octo", "widgets"⟩
          ([(1, 2), (3, 3), (4, 5)].map (partItem "a.txt")) 3 = .ok result ∧
        result.data.entries.map BatchEntry.content = ["a\n", "b\r", "c\n"] ∧
        Text.joinLines ((result.data.entries.map BatchEntry.content).map String.toList) =
          f.content.toList := by
  generalize hs :
    Store.after [.insertRepo ⟨"octo", "widgets"⟩ {}, .writeFile 1 uneven ⟨0⟩ false] = s
  have hrow : requireRepo s ⟨"octo", "widgets"⟩ =
    .ok ⟨1, "octo", "widgets", none, none, none, none⟩ := hs ▸ rfl
  have hfile : s.file? 1 "a.txt" = some (uneven.row 1 ⟨0⟩) := by
    rw [← hs]
    decide +kernel
  have hparts : Text.Tiles 1 (uneven.row 1 ⟨0⟩).lineCount [(1, 2), (3, 3), (4, 5)] :=
    .cons (by decide) (.cons (by decide) (.one (by decide)))
  have hbatch : (batchQuery s ⟨"octo", "widgets"⟩
      ([(1, 2), (3, 3), (4, 5)].map (partItem "a.txt")) 3).toOption.map
        (fun r => r.data.entries.map BatchEntry.content) = some ["a\n", "b\r", "c\n"] := by
    rw [← hs]
    decide +kernel
  obtain ⟨contents, hjoined, -, hbatched⟩ := parts_joined _ hs.symm hrow hfile hparts
  obtain ⟨result, hok, hcontents, -⟩ := hbatched (by decide) (by decide) 3 (by decide +kernel)
  rw [hok] at hbatch
  have hsame : result.data.entries.map BatchEntry.content = ["a\n", "b\r", "c\n"] := by
    simpa [Except.toOption] using hbatch
  exact ⟨s, _, _, rfl, hrow, hfile, hparts, result, hok, hsame, hcontents ▸ hjoined⟩

/-- A file with an empty path, and a file of a repository whose last sync was after the year
9999. -/
def unanswered : List Store.Operation :=
  [.insertRepo ⟨"octo", "widgets"⟩ {}, .insertRepo ⟨"octo", "gadgets"⟩ {},
    .writeFile 1 ⟨"", "x", "v1", "regex@1", []⟩ ⟨0⟩ false,
    .writeFile 2 ⟨"a.py", "x", "v1", "regex@1", []⟩ ⟨0⟩ false,
    .recordSync 2 none ⟨253402300800000⟩]

/-- The one part of the first file is refused in a batch that it fits, and the one part of the
second file is refused altogether. -/
theorem parts_unanswered :
    (∃ row f, requireRepo (Store.after unanswered) ⟨"octo", "widgets"⟩ = .ok row ∧
      (Store.after unanswered).file? row.id "" = some f ∧ f.content = "x" ∧
      Text.Tiles 1 f.lineCount [(1, 1)] ∧ total ([(1, 1)].map (partCost f)) ≤ 1 ∧
      ∃ result, batchQuery (Store.after unanswered) ⟨"octo", "widgets"⟩
          ([(1, 1)].map (partItem "")) 1 = .ok result ∧
        result.data.entries.map BatchEntry.content = [""] ∧
        result.data.entries.map BatchEntry.error = [some "path is required"]) ∧
    ∃ e f, (Store.after unanswered).entryNamed? "octo/gadgets" = some e ∧
      (Store.after unanswered).file? e.row.id "a.py" = some f ∧ f.content = "x" ∧
      Text.Tiles 1 f.lineCount [(1, 1)] ∧ partCost f (1, 1) ≤ 1 ∧
      fileQuery (Store.after unanswered) ⟨"octo", "gadgets"⟩ "a.py" (.lines 1 1) 1 =
        .error (.storage (.unreadableTime 7)) := by
  refine ⟨⟨_, _, rfl, rfl, rfl, .one (by decide), by decide +kernel, _, rfl, ?_, ?_⟩,
    _, _, rfl, rfl, rfl, .one (by decide), by decide +kernel, ?_⟩
  · decide +kernel
  · decide +kernel
  · rfl

end Query

end ContextIndex
