import ContextIndex.Proofs.Query.Tiers
import ContextIndex.Proofs.Store.Integrity
import ContextIndex.Query.Batch
import ContextIndex.Query.File
import Mathlib.Data.List.Forall2

/-!
# Batches and single queries

A batch answers its items as file queries would, one after the other, each under what those served
before it have left of the budget (`oneByOne`).  A part that a file query would cut is left out of
a batch instead, and costs nothing.  The two come to the range of a part in different ways: a query
looks at the range as it is asked for and cuts it to the file after that, a batch does it the other
way round.  They agree on every file that has a line (`selectRange_of_range`), and every stored file
has one.

`batchQuery_oneByOne` is the agreement for whole batches.
-/

namespace ContextIndex.Query

open ContextIndex.Store (AllRows)

/-! ## Items as single queries -/

/-- The part of a file that an item asks for.  There is none if the end of a range without one is
out of bounds. -/
def BatchItem.selector? (item : BatchItem) : Option FileSelector :=
  match item.first, item.last with
  | some first, some last => some (.lines first last)
  | some first, none => (addWord? first openRangeSpan).map (.lines first)
  | none, _ => some .whole

/-- The answer of a file query to an item, if there is one. -/
def BatchItem.alone? (s : Store) (repo : RepoId) (item : BatchItem) (left : Nat) :
    Option (Envelope FileSlice) :=
  if item.path.isEmpty then none
  else item.selector?.bind fun part => (fileQuery s repo item.path part left).toOption

/-- What an answer counts for in a batch: its tokens, if nothing is cut off. -/
def chargeOf : Option (Envelope FileSlice) → Nat
  | some e => if e.truncated then 0 else e.totalTokens
  | none => 0

/-- Whether there is an answer from which something is cut off. -/
def isCut (answer : Option (Envelope FileSlice)) : Bool :=
  answer.any Envelope.truncated

/-- Items with the answers of file queries, each under what the answers before it have left. -/
def oneByOne (s : Store) (repo : RepoId) :
    List BatchItem → Nat → List (BatchItem × Option (Envelope FileSlice))
  | [], _ => []
  | item :: items, left =>
    let answer := item.alone? s repo left
    (item, answer) :: oneByOne s repo items (left - chargeOf answer)

/-- The entry of a batch that goes with the answer to an item alone. -/
inductive EntryFor : BatchItem × Option (Envelope FileSlice) → BatchEntry → Prop
  | served (item : BatchItem) (e : Envelope FileSlice) : e.truncated = false →
    EntryFor (item, some e)
      { path := item.path, content := e.data.content, language := e.data.language
        lineCount := e.data.lineCount, first := e.data.first, last := e.data.last, error := none }
  | skipped (item : BatchItem) (e : Envelope FileSlice) (why : String) : e.truncated = true →
    EntryFor (item, some e) (.failed item.path why)
  | failed (item : BatchItem) (why : String) : EntryFor (item, none) (.failed item.path why)

theorem EntryFor.path {x : BatchItem × Option (Envelope FileSlice)} {entry : BatchEntry}
    (h : EntryFor x entry) : entry.path = x.1.path := by
  cases h <;> rfl

theorem map_fst_oneByOne (s : Store) (repo : RepoId) (items : List BatchItem) (left : Nat) :
    (oneByOne s repo items left).map Prod.fst = items := by
  induction items generalizing left with
  | nil => rfl
  | cons item items ih => exact congrArg (item :: ·) (ih _)

theorem paths_of_forall₂ {xs : List (BatchItem × Option (Envelope FileSlice))}
    {entries : List BatchEntry} (h : List.Forall₂ EntryFor xs entries) :
    entries.map BatchEntry.path = (xs.map Prod.fst).map BatchItem.path := by
  induction h with
  | nil => rfl
  | cons hx _ ih => exact congrArg₂ List.cons hx.path ih

/-! ## Ranges -/

section Ranges

variable {f : FileRow} {item : BatchItem} {part : FileSelector} {first last : Nat}

/-- Whether it is cut to the file before it is looked at or after, a range is valid or not, and if
it is then it is the same. -/
theorem selectRange_of_range (hlines : 1 ≤ f.lineCount) (hpart : item.selector? = some part) :
    ∃ first last, item.range f.lineCount = .ok (first, last) ∧
      (first = 0 ∨ last < first → ∃ e, selectRange f part = .error e) ∧
      (¬(first = 0 ∨ last < first) → selectRange f part = .ok (first, last)) := by
  have hrange (a b : Nat) :
      (a = 0 ∨ min b f.lineCount < a → ∃ e, selectRange f (.lines a b) = .error e) ∧
      (¬(a = 0 ∨ min b f.lineCount < a) →
        selectRange f (.lines a b) = .ok (a, min b f.lineCount)) := by
    unfold selectRange
    refine ⟨fun hbad => ?_, fun hgood => ?_⟩
    · by_cases hasked : a = 0 ∨ b < a
      · exact ⟨_, if_pos hasked⟩
      · have hpast : f.lineCount < a := by omega
        exact ⟨_, (if_neg hasked).trans (if_pos hpast)⟩
    · have hasked : ¬(a = 0 ∨ b < a) := by omega
      have hinside : ¬f.lineCount < a := by omega
      simp only [if_neg hasked, if_neg hinside]
  cases hfirst : item.first with
  | none =>
    simp only [BatchItem.selector?, hfirst, Option.some.injEq] at hpart
    subst hpart
    refine ⟨1, f.lineCount, by simp only [BatchItem.range, hfirst], fun hbad => ?_, fun _ => rfl⟩
    omega
  | some a =>
    cases hlast : item.last with
    | some b =>
      simp only [BatchItem.selector?, hfirst, hlast, Option.some.injEq] at hpart
      subst hpart
      exact ⟨a, _, by simp only [BatchItem.range, hfirst, hlast], hrange a b⟩
    | none =>
      simp only [BatchItem.selector?, hfirst, hlast] at hpart
      obtain ⟨b, hb, rfl⟩ := Option.map_eq_some_iff.mp hpart
      exact ⟨a, _, by simp only [BatchItem.range, hfirst, hlast, hb], hrange a b⟩

/-- An item that asks for no part has a range whose end is out of bounds. -/
theorem range_of_selector?_none (hpart : item.selector? = none) (lineCount : Nat) :
    item.range lineCount = .error .overflow := by
  cases hfirst : item.first with
  | none => simp only [BatchItem.selector?, hfirst, reduceCtorEq] at hpart
  | some a =>
    cases hlast : item.last with
    | some b => simp only [BatchItem.selector?, hfirst, hlast, reduceCtorEq] at hpart
    | none =>
      simp only [BatchItem.selector?, hfirst, hlast, Option.map_eq_none_iff] at hpart
      simp only [BatchItem.range, hfirst, hlast, hpart]

/-- A part that fits the budget is answered whole. -/
theorem sliceOf_of_le {budget : Nat} (hrange : selectRange f part = .ok (first, last))
    (hfits : Token.estimate (linesOf f first last) ≤ budget) :
    sliceOf f part budget = .ok
      { data := ⟨f.path, f.language, String.ofList (linesOf f first last), f.lineCount, first, last⟩
        totalTokens := Token.estimate (linesOf f first last)
        truncated := false, hint := none } := by
  have htake : Allocator.takePrimary { budget } (linesOf f first last) (fileHint part first last) =
      (Allocator.charge { budget } (Token.estimate (linesOf f first last)), linesOf f first last) :=
    Allocator.takePrimary_of_le hfits
  unfold sliceOf
  simp only [hrange, htake]
  simp [Allocator.finish, Allocator.charge]

/-- A part that does not fit the budget is cut. -/
theorem sliceOf_of_lt {budget : Nat} (hrange : selectRange f part = .ok (first, last))
    (hover : budget < Token.estimate (linesOf f first last)) :
    sliceOf f part budget = .ok
      { data := ⟨f.path, f.language, String.ofList (Token.truncate (linesOf f first last) budget),
          f.lineCount, first,
          first + Text.countLines (Token.truncate (linesOf f first last) budget) - 1⟩
        totalTokens := Token.estimate (Token.truncate (linesOf f first last) budget)
        truncated := true, hint := some (fileHint part first last budget) } := by
  have htake : Allocator.takePrimary { budget } (linesOf f first last) (fileHint part first last) =
      ({ Allocator.charge { budget }
            (Token.estimate (Token.truncate (linesOf f first last) budget)) with
          truncated := true, hint := some (fileHint part first last budget) },
        Token.truncate (linesOf f first last) budget) :=
    Allocator.takePrimary_of_lt hover
  unfold sliceOf
  simp only [hrange, htake]
  simp [Allocator.finish, Allocator.charge]

end Ranges

/-! ## One item -/

/-- The cost of the whole file that an item names; nothing if there is none. -/
def BatchItem.fileCost (s : Store) (id : Nat) (item : BatchItem) : Nat :=
  ((s.file? id item.path).map FileRow.tokens).getD 0

/-- An item asks for an open range of a file that is there, and the end is out of bounds. -/
def BatchItem.Endless (s : Store) (id : Nat) (item : BatchItem) : Prop :=
  item.path.isEmpty = false ∧ s.file? id item.path ≠ none ∧ item.selector? = none

/-- No sum is out of bounds when these items are answered: every open range of a file that is there
has an end, and the costs of the files together are a number of tokens. -/
structure InWords (s : Store) (id : Nat) (items : List BatchItem) : Prop where
  ends : ∀ item ∈ items, ¬item.Endless s id
  costs : total (items.map (BatchItem.fileCost s id)) < wordBound

section Item

variable {s : Store} {repo : RepoId} {row : RepoRow} {item : BatchItem} {a : Allocator}

theorem fileQuery_of_repo (hrow : requireRepo s repo = .ok row) (path : String)
    (part : FileSelector) (budget : Nat) :
    fileQuery s repo path part budget =
      match s.file? row.id path with
      | none => .error (.fileNotFound row.fullName path)
      | some f => sliceOf f part budget := by
  simp only [fileQuery, requireFile, hrow]
  cases s.file? row.id path <;> rfl

theorem alone?_of_empty (h : item.path.isEmpty = true) (left : Nat) :
    item.alone? s repo left = none :=
  if_pos h

theorem alone?_of_missing (hrow : requireRepo s repo = .ok row)
    (hfile : s.file? row.id item.path = none) (left : Nat) : item.alone? s repo left = none := by
  unfold BatchItem.alone?
  simp only [fileQuery_of_repo hrow, hfile]
  cases item.path.isEmpty <;> cases item.selector? <;> rfl

theorem alone?_of_file (hrow : requireRepo s repo = .ok row) (hpath : item.path.isEmpty = false)
    {part : FileSelector} (hpart : item.selector? = some part) {f : FileRow}
    (hfile : s.file? row.id item.path = some f) (left : Nat) :
    item.alone? s repo left = (sliceOf f part left).toOption := by
  unfold BatchItem.alone?
  simp only [fileQuery_of_repo hrow, hfile, hpath, hpart]
  rfl

/-- What a batch does with an item is told by the answer to the item alone: the entry, what is
charged, and whether the item is counted as one that did not fit. -/
structure Agrees (s : Store) (row : RepoRow) (item : BatchItem) (a : Allocator)
    (answer : Option (Envelope FileSlice)) : Prop where
  served : ∃ entry, serve s row item a = .ok (entry, a.charge (chargeOf answer), isCut answer) ∧
    EntryFor (item, answer) entry
  charge_le : chargeOf answer ≤ min a.remaining (item.fileCost s row.id)

theorem agrees_failed {why : String}
    (h : serve s row item a = .ok (.failed item.path why, a, false)) :
    Agrees s row item a none :=
  ⟨⟨_, h, .failed item why⟩, Nat.zero_le _⟩

/-- A part of a stored file costs no more than the file. -/
theorem estimate_linesOf_le {f : FileRow} (hf : f.Measured) (first last : Nat) :
    Token.estimate (linesOf f first last) ≤ f.tokens := by
  rw [hf.tokens]
  have hlength := Text.length_lineRange_le f.content.toList first last
  simp only [Token.estimate, Token.costOfLength, linesOf]
  exact Nat.div_le_div_right (by omega)

/-- The same for an item whose file is there. -/
theorem serveFile_agrees {f : FileRow} {part : FileSelector}
    (hfile : s.file? row.id item.path = some f)
    (hname : f.path = item.path) (hf : f.Measured) (hpart : item.selector? = some part)
    (hserve : serve s row item a = serveFile f item a) :
    Agrees s row item a (sliceOf f part a.remaining).toOption ∨
      serve s row item a = .error .overflow ∧ wordBound ≤ a.spent + item.fileCost s row.id := by
  have hlines : 1 ≤ f.lineCount := by
    rw [hf.lineCount]
    exact Nat.le_add_left 1 _
  have hfileCost : item.fileCost s row.id = f.tokens := by
    unfold BatchItem.fileCost
    rw [hfile]
    rfl
  obtain ⟨first, last, hrange, hbad, hgood⟩ := selectRange_of_range hlines hpart
  unfold serveFile at hserve
  simp only [hrange] at hserve
  by_cases hvalid : first = 0 ∨ last < first
  · obtain ⟨e, he⟩ := hbad hvalid
    rw [if_pos hvalid] at hserve
    have hslice : sliceOf f part a.remaining = .error e := by
      unfold sliceOf
      rw [he]
    rw [hslice]
    exact .inl (agrees_failed hserve)
  have hselect := hgood hvalid
  have hle := estimate_linesOf_le hf first last
  rw [if_neg hvalid] at hserve
  unfold Allocator.trySpend at hserve
  by_cases hfits : Token.estimate (linesOf f first last) ≤ a.remaining
  · rw [if_neg (Nat.not_lt.mpr hfits)] at hserve
    rw [sliceOf_of_le hselect hfits]
    refine .inl ⟨⟨_, hserve, ?_⟩, Nat.le_min.mpr ⟨hfits, hfileCost ▸ hle⟩⟩
    rw [hname]
    exact .served item _ rfl
  have hover := Nat.not_le.mp hfits
  rw [if_pos hover] at hserve
  by_cases hsum : a.spent + Token.estimate (linesOf f first last) < wordBound
  · simp only [addWord?, if_pos hsum] at hserve
    obtain ⟨e, hslice, hcut⟩ : ∃ e, sliceOf f part a.remaining = .ok e ∧ e.truncated = true :=
      ⟨_, sliceOf_of_lt hselect hover, rfl⟩
    have hcharge : chargeOf (some e) = 0 := if_pos hcut
    have hisCut : isCut (some e) = true := hcut
    rw [hslice]
    show Agrees s row item a (some e) ∨ _
    refine .inl ⟨?_, hcharge ▸ Nat.zero_le _⟩
    rw [hcharge, hisCut, Allocator.charge_zero]
    exact ⟨_, hserve, .skipped item e _ hcut⟩
  · simp only [addWord?, if_neg hsum] at hserve
    exact .inr ⟨hserve, by omega⟩

/-- A batch does with an item what a file query under the rest of the budget says, unless a sum is
out of bounds. -/
theorem serve_agrees (hrow : requireRepo s repo = .ok row) (hs : s.AllRows FileRow.Measured) :
    Agrees s row item a (item.alone? s repo a.remaining) ∨
      serve s row item a = .error .overflow ∧
        (item.Endless s row.id ∨ wordBound ≤ a.spent + item.fileCost s row.id) := by
  by_cases hempty : item.path.isEmpty = true
  · rw [alone?_of_empty hempty]
    have hnone : item.path = "" := by simpa using hempty
    refine .inl (@agrees_failed _ _ _ _ "path is required" ?_)
    unfold serve
    rw [if_pos hempty, hnone]
  have hpath : item.path.isEmpty = false := by simpa using hempty
  cases hfile : s.file? row.id item.path with
  | none =>
    rw [alone?_of_missing hrow hfile]
    refine .inl (@agrees_failed _ _ _ _ "File not found" ?_)
    unfold serve
    rw [if_neg hempty, hfile]
  | some f =>
    obtain ⟨hname, hf⟩ := hs.file? hfile
    have hserve : serve s row item a = serveFile f item a := by
      unfold serve
      rw [if_neg hempty, hfile]
    cases hpart : item.selector? with
    | none =>
      refine .inr ⟨?_, .inl ⟨hpath, Option.ne_none_iff_exists'.mpr ⟨f, hfile⟩, hpart⟩⟩
      rw [hserve]
      unfold serveFile
      rw [range_of_selector?_none hpart]
    | some part =>
      rw [alone?_of_file hrow hpath hpart hfile]
      exact (serveFile_agrees hfile hname hf hpart hserve).imp_right fun h => ⟨h.1, .inr h.2⟩

end Item

/-! ## Batches -/

section Batch

variable {s : Store} {repo : RepoId} {row : RepoRow}

/-- What the answers to items alone count for. -/
def charges (answers : List (BatchItem × Option (Envelope FileSlice))) : List Nat :=
  answers.map fun x => chargeOf x.2

/-- All items: the entries go with the answers to the items alone, what these count for is charged,
and items are counted as not fitting exactly if an answer is cut.  Else a sum is out of bounds. -/
theorem serveAll_oneByOne (hrow : requireRepo s repo = .ok row)
    (hs : s.AllRows FileRow.Measured) (items : List BatchItem) (a : Allocator) :
    (∃ entries count, serveAll s row items a =
        .ok (entries, a.charge (total (charges (oneByOne s repo items a.remaining))), count) ∧
      List.Forall₂ EntryFor (oneByOne s repo items a.remaining) entries ∧
      total (charges (oneByOne s repo items a.remaining)) ≤ a.remaining ∧
      (count = 0 ↔ ∀ x ∈ oneByOne s repo items a.remaining, isCut x.2 = false)) ∨
    serveAll s row items a = .error .overflow ∧ ((∃ item ∈ items, item.Endless s row.id) ∨
      wordBound ≤ a.spent + total (items.map (BatchItem.fileCost s row.id))) := by
  induction items generalizing a with
  | nil =>
    exact .inl ⟨[], 0, rfl, .nil, Nat.zero_le _, ⟨fun _ _ hx => (nomatch hx), fun _ => rfl⟩⟩
  | cons item items ih =>
    have hcosts : total ((item :: items).map (BatchItem.fileCost s row.id)) =
      item.fileCost s row.id + total (items.map (BatchItem.fileCost s row.id)) := rfl
    obtain ⟨⟨entry, hserve, hentry⟩, hcharge⟩ | ⟨hserve, hover⟩ :=
      @serve_agrees _ _ _ item a hrow hs
    · obtain ⟨hleft, hfile⟩ := Nat.le_min.mp hcharge
      have hone : oneByOne s repo (item :: items) a.remaining =
        (item, item.alone? s repo a.remaining) :: oneByOne s repo items
          (a.remaining - chargeOf (item.alone? s repo a.remaining)) := rfl
      generalize item.alone? s repo a.remaining = answer at *
      rw [hone]
      have hrest := ih (a.charge (chargeOf answer))
      rw [Allocator.remaining_charge, Allocator.charge_spent] at hrest
      obtain ⟨entries, count, hall, hentries, hspent, hcount⟩ | ⟨hall, hover⟩ := hrest
      · refine .inl
          ⟨entry :: entries, count + (isCut answer).toNat, ?_, .cons hentry hentries, ?_, ?_⟩
        · unfold serveAll
          simp only [hserve, hall, Allocator.charge_charge]
          rfl
        · show chargeOf answer + total (charges _) ≤ a.remaining
          omega
        · rw [List.forall_mem_cons, ← hcount]
          cases isCut answer <;> simp
      · refine .inr ⟨?_, hover.imp (fun ⟨x, hx, hend⟩ => ⟨x, List.mem_cons_of_mem _ hx, hend⟩) ?_⟩
        · unfold serveAll
          simp only [hserve, hall]
        · omega
    · refine .inr ⟨?_, hover.imp (fun hend => ⟨item, List.mem_cons_self, hend⟩) (by omega)⟩
      unfold serveAll
      simp only [hserve]

end Batch

/-- A repository with a short file and one that is longer. -/
def shelf : List Store.Operation :=
  [.insertRepo ⟨"octo", "widgets"⟩ {},
    .writeFile 1 ⟨"a.py", "x = 1\ny = 2", "v1", "regex@1", []⟩ ⟨0⟩ false,
    .writeFile 1 ⟨"b.py", "total = one + two + three + four", "v1", "regex@1", []⟩ ⟨1⟩ false]

/-- Parts of these and of others, some of which cannot be answered. -/
def requests : List BatchItem :=
  [{ path := "a.py", first := some 2 }, { path := "" }, { path := "c.py" }, { path := "b.py" },
    { path := "a.py", first := some 3, last := some 9 }, { path := "a.py" }]

end ContextIndex.Query
