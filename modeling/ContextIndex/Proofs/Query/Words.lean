import ContextIndex.Proofs.Query.Slices
import ContextIndex.Proofs.Query.Spending

/-!
# Queries in 64 bits

Lines, costs and budgets are 64-bit quantities.  The queries that read parts of files are done here
once more, so that a difference of less than zero or a sum that passes the bound leaves them without
an answer (`fileQuery?`, `contextQuery?`, `batchQuery?`).  They do have their answers: a range is
cut to its file before it is computed with, and the files themselves are small (`FileRow.Short`).

The one exception is a batch that asks for lines from one on without saying where to stop.  The end
is put a hundred lines further on before anything is known of the range, and that sum may be out of
bounds (`BatchItem.endless_iff`).  `queries_in_words` says that nothing else is.
-/

namespace ContextIndex

/-- A difference, if it is not less than zero. -/
def subWord? (a b : Nat) : Option Nat :=
  if b ≤ a then some (a - b) else none

theorem subWord?_eq {a b : Nat} (h : b ≤ a) : subWord? a b = some (a - b) :=
  if_pos h

theorem addWord?_eq {a b : Nat} (h : a + b < wordBound) : addWord? a b = some (a + b) :=
  if_pos h

/-- A product that stays at the largest quantity is a 64-bit quantity. -/
theorem saturatingMul_lt (a b : Nat) : saturatingMul a b < wordBound :=
  Nat.lt_of_le_of_lt (Nat.min_le_right _ _) (Nat.sub_lt (by decide) (by decide))

/-! ## Ranges of lines -/

namespace Text

/-- `lineRange` in 64 bits. -/
def lineRange? (cs : List Char) (first last : Nat) : Option (List Char) :=
  let first := max first 1
  if last < first then some []
  else
    (subWord? first 1).bind fun before =>
      (subWord? last first).bind fun more =>
        (addWord? more 1).map fun count => joinLines (((lines cs).drop before).take count)

/-- The first line is 1 or more, so there are no more lines up to a 64-bit quantity than it says. -/
theorem lineRange?_eq (cs : List Char) (first : Nat) {last : Nat} (h : last < wordBound) :
    lineRange? cs first last = some (lineRange cs first last) := by
  unfold lineRange? lineRange
  by_cases hempty : last < max first 1
  · simp only [if_pos hempty]
  · have hbefore : 1 ≤ max first 1 := Nat.le_max_right first 1
    have hcount : last - max first 1 + 1 < wordBound := by omega
    simp only [if_neg hempty, subWord?_eq hbefore, subWord?_eq (Nat.not_lt.mp hempty),
      addWord?_eq hcount, Option.bind_some, Option.map_some]

theorem countLines_le (cs : List Char) : countLines cs ≤ cs.length + 1 :=
  Nat.succ_le_succ List.count_le_length

end Text

/-! ## Files of bounded length -/

/-- A row that says of its text what is so, where as many texts of this length as a batch has parts
are together of a 64-bit length. -/
structure FileRow.Short (f : FileRow) : Prop where
  measured : f.Measured
  length : Query.maxBatch * f.content.length < wordBound

namespace FileRow.Short

variable {f : FileRow} (hf : f.Short)

include hf

theorem lineCount_le : f.lineCount ≤ f.content.length + 1 := by
  rw [hf.measured.lineCount, ← String.length_toList]
  exact Text.countLines_le _

theorem two_mul_length : 2 * (f.content.length + 1) < wordBound := by
  have hlength := hf.length
  simp only [Query.maxBatch, wordBound] at *
  omega

theorem lineRange?_eq (first : Nat) {last : Nat} (h : last ≤ f.lineCount) :
    Text.lineRange? f.content.toList first last = some (Query.linesOf f first last) := by
  refine Text.lineRange?_eq _ _ ?_
  have hcount := hf.lineCount_le
  have htwice := hf.two_mul_length
  omega

/-- The lines of a stored symbol are in its file. -/
theorem lineRange?_symbol {y : Symbol} (hy : y ∈ f.symbols) :
    Text.lineRange? f.content.toList y.first y.last = some (Query.linesOf f y.first y.last) :=
  hf.lineRange?_eq y.first (hf.measured.lineCount ▸ (hf.measured.symbols y hy).last)

end FileRow.Short

theorem measured_of_short {s : Store} (hs : s.AllRows FileRow.Short) :
    s.AllRows FileRow.Measured :=
  fun e he f hf => (hs e he f hf).measured

namespace Query

/-! ## Parts of a file -/

/-- The last line of a part of which something is left, in 64 bits. -/
def lastLine? (first : Nat) (content : List Char) : Option Nat :=
  (addWord? first (Text.countLines content)).bind fun next => subWord? next 1

/-- `sliceOf` in 64 bits. -/
def sliceOf? (f : FileRow) (selector : FileSelector) (maxTokens : Nat) :
    Option (Except Error (Envelope FileSlice)) :=
  match selectRange f selector with
  | .error e => some (.error e)
  | .ok (first, last) =>
    (Text.lineRange? f.content.toList first last).bind fun text =>
      (Allocator.takePrimary? { budget := maxTokens } text (fileHint selector first last)).bind
        fun (a, content) =>
          (if a.truncated then lastLine? first content else some last).map fun last =>
            .ok (a.finish
              { path := f.path
                language := f.language
                content := String.ofList content
                lineCount := f.lineCount
                first := first
                last := last })

/-- `fileQuery` in 64 bits. -/
def fileQuery? (s : Store) (repo : RepoId) (path : String) (selector : FileSelector)
    (maxTokens : Nat) : Option (Except Error (Envelope FileSlice)) :=
  match requireRepo s repo with
  | .error e => some (.error e)
  | .ok row =>
    match requireFile s row path with
    | .error e => some (.error e)
    | .ok f => sliceOf? f selector maxTokens

section Slices

variable {f : FileRow} {budget : Nat}

/-- What is left of a part has no more lines than the file, and begins in it. -/
theorem lastLine?_eq (hf : f.Short) {first last : Nat} (hfirst : first ≤ f.lineCount)
    {kept : List Char} (hkept : kept <+: linesOf f first last) :
    lastLine? first kept = some (first + Text.countLines kept - 1) := by
  have hshorter := hkept.length_le
  have hlines := Text.countLines_le kept
  have hlength := Text.length_lineRange_le f.content.toList first last
  have hcount := hf.lineCount_le
  have htwice := hf.two_mul_length
  rw [String.length_toList] at hlength
  rw [linesOf] at hshorter
  have hone : 1 ≤ first + Text.countLines kept :=
    Nat.le_trans (Nat.le_add_left 1 _) (Nat.le_add_left _ first)
  rw [lastLine?, addWord?_eq (by omega), Option.bind_some, subWord?_eq hone]

theorem sliceOf?_eq (hf : f.Short) (hbudget : budget < wordBound) (part : FileSelector) :
    sliceOf? f part budget = some (sliceOf f part budget) := by
  unfold sliceOf? sliceOf
  cases hselect : selectRange f part with
  | error e => rfl
  | ok range =>
    obtain ⟨first, last⟩ := range
    obtain ⟨-, hle, hlast⟩ := (selects_of_selectRange hf.measured hselect).range hf.measured
    rw [← hf.measured.lineCount] at hlast
    have htake := @Allocator.takePrimary?_eq { budget } (Nat.zero_le _) hbudget
      (linesOf f first last) (fileHint part first last)
    simp only [hf.lineRange?_eq first hlast, htake, Option.bind_some]
    by_cases hcut :
        (Allocator.takePrimary { budget } (linesOf f first last)
          (fileHint part first last)).1.truncated = true
    · have hkept := Allocator.takePrimary_prefix { budget } (linesOf f first last)
        (fileHint part first last)
      rw [if_pos hcut, if_pos hcut, lastLine?_eq hf (Nat.le_trans hle hlast) hkept]
      rfl
    · rw [if_neg hcut, if_neg hcut]
      rfl

end Slices

/-! ## Contexts -/

/-- `resolveType` in 64 bits. -/
def resolveType? (f : FileRow) (name : String) : Option (Option (Nat × ReferencedType)) :=
  match Store.findSymbol f name SymbolKind.types with
  | none => some none
  | some y =>
    (Text.lineRange? f.content.toList y.first y.last).map fun body =>
      some (Token.estimate body, ⟨y.name, y.kind, String.ofList body⟩)

/-- A look at a candidate that fails only where a quantity is out of bounds. -/
def failsOutOfBounds {C T : Type} (resolve : C → Option (Option (Nat × T))) (c : C) :
    Except Unit (Option (Nat × T)) :=
  (resolve c).elim (.error ()) .ok

/-- `fillSurely` in 64 bits. -/
def fillSurely? {C T : Type} (tier : Tier) (resolve : C → Option (Option (Nat × T)))
    (a : Allocator) (candidates : List C) : Option (Allocator × List T) :=
  (Allocator.fillTier? tier (failsOutOfBounds resolve) a candidates).bind fun filled =>
    match filled.failure with
    | some () => none
    | none => some (filled.allocator, filled.taken)

/-- `contextOf` in 64 bits. -/
def contextOf? (f : FileRow) (y : Symbol) (name : String) (budget : Nat) :
    Option (Envelope SymbolContext) :=
  (Text.lineRange? f.content.toList y.first y.last).bind fun source =>
    (Allocator.takePrimary? { budget } source (contextHint y)).bind fun (a, content) =>
      (fillSurely? .secondary (resolveType? f) a
          (referencedTypeNames (String.ofList source) name)).bind fun (a, types) =>
        (fillSurely? .tertiary (fun c => some (resolveCallee f c)) a
            (calleeNames (String.ofList source) name)).map fun (a, callees) =>
          a.finish ⟨⟨y.name, y.kind, String.ofList content, y.first, y.last⟩, types, callees⟩

/-- `contextQuery` in 64 bits. -/
def contextQuery? (s : Store) (repo : RepoId) (path name : String) (budget : Nat) :
    Option (Except Error (Envelope SymbolContext)) :=
  match requireRepo s repo with
  | .error e => some (.error e)
  | .ok row =>
    match requireFile s row path with
    | .error e => some (.error e)
    | .ok f =>
      match Store.findSymbol f name [] with
      | none => some (.error (.symbolNotFound name path))
      | some y => (contextOf? f y name budget).map .ok

section Contexts

variable {f : FileRow} {budget : Nat}

theorem mem_of_findSymbol {name : String} {kinds : List SymbolKind} {y : Symbol}
    (h : Store.findSymbol f name kinds = some y) : y ∈ f.symbols :=
  (firstNamed_of_findSymbol h).mem

theorem resolveType?_eq (hf : f.Short) (name : String) :
    resolveType? f name = some (resolveType f name) := by
  unfold resolveType? resolveType
  cases hfind : Store.findSymbol f name SymbolKind.types with
  | none => rfl
  | some y =>
    simp only [hf.lineRange?_symbol (mem_of_findSymbol hfind)]
    rfl

theorem failsOutOfBounds_eq_ok {C T : Type} {resolve : C → Option (Nat × T)} {c : C}
    {found : Option (Nat × T)} (h : neverFails resolve c = .ok found) :
    failsOutOfBounds (fun c => some (resolve c)) c = .ok found :=
  congrArg Except.ok (Except.ok.inj h)

/-- A tier whose candidates are all within bounds is filled as one whose candidates cannot fail. -/
theorem fillTier_failsOutOfBounds {C T : Type} (tier : Tier) (resolve : C → Option (Nat × T))
    (a : Allocator) (cs : List C) :
    Allocator.fillTier tier (failsOutOfBounds fun c => some (resolve c)) a cs =
      ⟨(Allocator.fillTier tier (neverFails resolve) a cs).allocator,
        (Allocator.fillTier tier (neverFails resolve) a cs).taken,
        (Allocator.fillTier tier (neverFails resolve) a cs).resolved, none⟩ := by
  induction a, cs using Allocator.fillTier_induction tier (neverFails resolve) with
  | nil a => rfl
  | under a c cs hfloor => rw [Allocator.fillTier_under hfloor, Allocator.fillTier_under hfloor]
  | error a c cs e hfloor hc => exact e.elim
  | none a c cs hfloor hc ih =>
    rw [Allocator.fillTier_none hfloor hc,
      Allocator.fillTier_none hfloor (failsOutOfBounds_eq_ok hc), ih]
  | take a c cs cost piece hfloor hc hcost ih =>
    rw [Allocator.fillTier_take hfloor hc hcost,
      Allocator.fillTier_take hfloor (failsOutOfBounds_eq_ok hc) hcost, ih]
  | skip a c cs cost piece hfloor hc hcost ih =>
    rw [Allocator.fillTier_skip hfloor hc hcost,
      Allocator.fillTier_skip hfloor (failsOutOfBounds_eq_ok hc) hcost, ih]

theorem fillSurely?_eq {C T : Type} (tier : Tier) {resolve? : C → Option (Option (Nat × T))}
    {resolve : C → Option (Nat × T)} (hresolve : ∀ c, resolve? c = some (resolve c))
    {a : Allocator} (ha : a.Within) (hbudget : a.budget < wordBound) (cs : List C) :
    fillSurely? tier resolve? a cs = some (fillSurely tier resolve a cs) := by
  obtain rfl : resolve? = fun c => some (resolve c) := funext hresolve
  rw [fillSurely?, Allocator.fillTier?_eq tier _ cs ha hbudget, Option.bind_some,
    fillTier_failsOutOfBounds]
  rfl

/-- A tier spends no more than there is, of the same budget. -/
theorem within_fillSurely {C T : Type} (tier : Tier) (resolve : C → Option (Nat × T))
    {a : Allocator} (ha : a.Within) (cs : List C) :
    (fillSurely tier resolve a cs).1.Within ∧
      (fillSurely tier resolve a cs).1.budget = a.budget := by
  rw [fillSurely_eq]
  exact ⟨ha.charge (Allocator.total_picks_le tier (neverFails resolve) a cs), rfl⟩

theorem contextOf?_eq (hf : f.Short) (hbudget : budget < wordBound) {y : Symbol}
    (hy : y ∈ f.symbols) (name : String) :
    contextOf? f y name budget = some (contextOf f y name budget) := by
  unfold contextOf? contextOf
  rw [hf.lineRange?_symbol hy, Option.bind_some]
  generalize linesOf f y.first y.last = source
  have htake := @Allocator.takePrimary?_eq { budget } (Nat.zero_le _) hbudget source (contextHint y)
  have hprimary : (Allocator.takePrimary { budget } source (contextHint y)).1.Within :=
    ((Allocator.Sound.fresh budget).run (.takePrimary source (contextHint y))).within
  have hkept := Allocator.budget_takePrimary { budget } source (contextHint y)
  have hwords : (Allocator.takePrimary { budget } source (contextHint y)).1.budget < wordBound :=
    hkept ▸ hbudget
  have htypes := within_fillSurely .secondary (resolveType f) hprimary
    (referencedTypeNames (String.ofList source) name)
  rw [htake, Option.bind_some]
  dsimp only
  rw [fillSurely?_eq .secondary (resolveType?_eq hf) hprimary hwords, Option.bind_some,
    fillSurely?_eq .tertiary (fun _ => rfl) htypes.1 (htypes.2 ▸ hwords), Option.map_some]

end Contexts

section Stores

variable {s : Store} (hs : s.AllRows FileRow.Short) (repo : RepoId) (path : String) {budget : Nat}
  (hbudget : budget < wordBound)

include hs hbudget

theorem fileQuery?_eq (part : FileSelector) :
    fileQuery? s repo path part budget = some (fileQuery s repo path part budget) := by
  unfold fileQuery? fileQuery
  cases requireRepo s repo with
  | error e => rfl
  | ok row =>
    cases hfile : requireFile s row path with
    | error e => simp only [hfile]
    | ok f =>
      simp only [hfile]
      exact sliceOf?_eq (hs.file? (file?_of_requireFile hfile)).2 hbudget part

theorem contextQuery?_eq (name : String) :
    contextQuery? s repo path name budget = some (contextQuery s repo path name budget) := by
  unfold contextQuery? contextQuery
  cases requireRepo s repo with
  | error e => rfl
  | ok row =>
    cases hfile : requireFile s row path with
    | error e => simp only [hfile]
    | ok f =>
      have hf : f.Short := (hs.file? (file?_of_requireFile hfile)).2
      cases hfind : Store.findSymbol f name [] with
      | none => simp only [hfile, hfind]
      | some y =>
        simp only [hfile, hfind, contextOf?_eq hf hbudget (mem_of_findSymbol hfind)]
        rfl

end Stores

/-! ## Batches -/

/-- `BatchItem.range` in 64 bits. -/
def BatchItem.range? (item : BatchItem) (lineCount : Nat) : Option (Nat × Nat) :=
  match item.first, item.last with
  | some first, some last => some (first, min last lineCount)
  | some first, none =>
    (addWord? first openRangeSpan).map fun last => (first, min last lineCount)
  | none, _ => some (1, lineCount)

/-- `serveFile` in 64 bits. -/
def serveFile? (f : FileRow) (item : BatchItem) (a : Allocator) :
    Option (BatchEntry × Allocator × Bool) :=
  (item.range? f.lineCount).bind fun (first, last) =>
    if first = 0 ∨ last < first then some (.failed item.path (badRangeText first last), a, false)
    else
      (Text.lineRange? f.content.toList first last).bind fun content =>
        (a.trySpend? (Token.estimate content)).bind fun
          | some b =>
            some ({ path := f.path, content := String.ofList content, language := f.language,
                    lineCount := f.lineCount, first, last }, b, false)
          | none =>
            (addWord? a.spent (Token.estimate content)).map fun total =>
              (.failed item.path ("Skipped: token budget exceeded (" ++ toString total ++ " > " ++
                toString a.budget ++ ")"), a, true)

/-- `serve` in 64 bits. -/
def serve? (s : Store) (repo : RepoRow) (item : BatchItem) (a : Allocator) :
    Option (BatchEntry × Allocator × Bool) :=
  if item.path.isEmpty then some (.failed "" "path is required", a, false)
  else match s.file? repo.id item.path with
    | none => some (.failed item.path "File not found", a, false)
    | some f => serveFile? f item a

/-- `serveAll` in 64 bits. -/
def serveAll? (s : Store) (repo : RepoRow) :
    List BatchItem → Allocator → Option (List BatchEntry × Allocator × Nat)
  | [], a => some ([], a, 0)
  | item :: items, a =>
    (serve? s repo item a).bind fun (entry, a, skipped) =>
      (serveAll? s repo items a).bind fun (entries, a, count) =>
        (addWord? count skipped.toNat).map fun count => (entry :: entries, a, count)

/-- `batchQuery` in 64 bits. -/
def batchQuery? (s : Store) (repo : RepoId) (items : List BatchItem) (maxTokens : Nat) :
    Option (Except Error (Envelope BatchResult)) :=
  if items.isEmpty then some (.error (.request .emptyBatch))
  else if maxBatch < items.length then some (.error (.request (.oversizedBatch maxBatch)))
  else match requireRepo s repo with
    | .error e => some (.error e)
    | .ok row =>
      (serveAll? s row items { budget := maxTokens }).map fun (entries, a, skipped) =>
        let a := if skipped = 0 then a else a.markTruncated (batchHint skipped)
        .ok (a.finish ⟨entries, a.spent⟩)

section Batches

variable {f : FileRow} {item : BatchItem} {a : Allocator} {s : Store} {repo : RepoId}
  {row : RepoRow}

theorem BatchItem.range?_eq (item : BatchItem) (lineCount : Nat) :
    item.range? lineCount = (item.range lineCount).toOption := by
  unfold BatchItem.range? BatchItem.range
  cases item.first with
  | none => rfl
  | some first =>
    cases item.last with
    | some last => rfl
    | none => cases h : addWord? first openRangeSpan <;> simp only [h] <;> rfl

/-- Wherever a range ends, it ends in the file. -/
theorem BatchItem.range_le {lineCount first last : Nat}
    (h : item.range lineCount = .ok (first, last)) : last ≤ lineCount := by
  unfold BatchItem.range at h
  split at h
  · cases h
    exact Nat.min_le_right _ _
  · split at h
    · cases h
      exact Nat.min_le_right _ _
    · cases h
  · cases h
    exact Nat.le_refl _

theorem serveFile?_eq (hf : f.Short) (ha : a.Within) (hbudget : a.budget < wordBound) :
    serveFile? f item a = (serveFile f item a).toOption := by
  unfold serveFile? serveFile
  rw [BatchItem.range?_eq]
  cases hrange : item.range f.lineCount with
  | error e => rfl
  | ok range =>
    obtain ⟨first, last⟩ := range
    show (if first = 0 ∨ last < first then _ else _) = _
    dsimp only
    split
    · rfl
    rw [hf.lineRange?_eq first (BatchItem.range_le hrange), Option.bind_some,
      Allocator.trySpend?_eq ha hbudget, Option.bind_some]
    cases a.trySpend (Token.estimate (linesOf f first last)) with
    | some b => rfl
    | none => cases h : addWord? a.spent (Token.estimate (linesOf f first last)) <;> rfl

theorem serve?_eq (hs : s.AllRows FileRow.Short) (ha : a.Within) (hbudget : a.budget < wordBound) :
    serve? s row item a = (serve s row item a).toOption := by
  unfold serve? serve
  by_cases hpath : item.path.isEmpty = true
  · rw [if_pos hpath, if_pos hpath]
    rfl
  · rw [if_neg hpath, if_neg hpath]
    cases hfile : s.file? row.id item.path with
    | none => rfl
    | some f => exact serveFile?_eq (hs.file? hfile).2 ha hbudget

/-- No more items are counted as ones that do not fit than there are. -/
theorem count_serveAll_le {items : List BatchItem} {entries : List BatchEntry} {b : Allocator}
    {count : Nat} (h : serveAll s row items a = .ok (entries, b, count)) :
    count ≤ items.length := by
  induction items generalizing a entries count with
  | nil =>
    cases h
    exact Nat.le_refl 0
  | cons item items ih =>
    unfold serveAll at h
    split at h
    · cases h
    next entry a' skipped _ =>
    split at h
    · cases h
    next hrest =>
    cases h
    exact Nat.add_le_add (ih hrest) (Bool.toNat_le skipped)

/-- An item leaves a budget of which no more is spent than there is. -/
theorem within_serve (hrow : requireRepo s repo = .ok row) (hs : s.AllRows FileRow.Measured)
    (ha : a.Within) {entry : BatchEntry} {b : Allocator} {skipped : Bool}
    (h : serve s row item a = .ok (entry, b, skipped)) : b.Within ∧ b.budget = a.budget := by
  obtain ⟨⟨_, hserve, -⟩, hcharge⟩ | ⟨hserve, -⟩ := @serve_agrees _ _ _ item a hrow hs
  · cases hserve.symm.trans h
    exact ⟨ha.charge (Nat.le_trans hcharge (Nat.min_le_left _ _)), rfl⟩
  · cases hserve.symm.trans h

theorem serveAll?_eq (hrow : requireRepo s repo = .ok row) (hs : s.AllRows FileRow.Short)
    (items : List BatchItem) (hitems : items.length < wordBound) (ha : a.Within)
    (hbudget : a.budget < wordBound) :
    serveAll? s row items a = (serveAll s row items a).toOption := by
  induction items generalizing a with
  | nil => rfl
  | cons item items ih =>
    unfold serveAll? serveAll
    rw [serve?_eq hs ha hbudget]
    cases hserve : serve s row item a with
    | error e => rfl
    | ok served =>
      obtain ⟨entry, b, skipped⟩ := served
      obtain ⟨hb, hsame⟩ := within_serve hrow (measured_of_short hs) ha hserve
      have hfewer : items.length < wordBound := Nat.lt_of_succ_lt hitems
      show (serveAll? s row items b).bind _ = _
      rw [ih hfewer hb (hsame ▸ hbudget)]
      dsimp only
      cases hall : serveAll s row items b with
      | error e => rfl
      | ok rest =>
        obtain ⟨entries, c, count⟩ := rest
        have hle : count + skipped.toNat ≤ items.length + 1 :=
          Nat.add_le_add (count_serveAll_le hall) (Bool.toNat_le skipped)
        have hcount : count + skipped.toNat < wordBound := Nat.lt_of_le_of_lt hle hitems
        show (addWord? count skipped.toNat).map _ = _
        rw [addWord?_eq hcount]
        rfl

/-- The open ranges of files that are there whose end is out of bounds. -/
theorem BatchItem.endless_iff {id : Nat} : item.Endless s id ↔
    item.path ≠ "" ∧ s.file? id item.path ≠ none ∧ item.last = none ∧
      ∃ first, item.first = some first ∧ wordBound ≤ first + openRangeSpan := by
  have hpath : item.path.isEmpty = false ↔ item.path ≠ "" := by simp
  have hselector : item.selector? = none ↔ item.last = none ∧
      ∃ first, item.first = some first ∧ wordBound ≤ first + openRangeSpan := by
    unfold BatchItem.selector?
    cases item.first <;> cases item.last <;> simp [addWord?]
  rw [BatchItem.Endless, hpath, hselector]

theorem serve_of_endless (hend : item.Endless s row.id) :
    serve s row item a = .error .overflow := by
  obtain ⟨hpath, hfile, hselector⟩ := hend
  obtain ⟨f, hfile⟩ := Option.ne_none_iff_exists'.mp hfile
  simp only [serve, hpath, hfile, serveFile, range_of_selector?_none hselector, Bool.false_eq_true,
    if_false]

/-- An item whose range has no end within bounds leaves the batch without an answer, wherever it
stands. -/
theorem serveAll_of_endless (hrow : requireRepo s repo = .ok row)
    (hs : s.AllRows FileRow.Measured) {items : List BatchItem} (hitem : item ∈ items)
    (hend : item.Endless s row.id) (a : Allocator) :
    serveAll s row items a = .error .overflow := by
  induction items generalizing a with
  | nil => nomatch hitem
  | cons first items ih =>
    unfold serveAll
    obtain ⟨⟨entry, hserve, -⟩, -⟩ | ⟨hserve, -⟩ := @serve_agrees _ _ _ first a hrow hs
    · -- The first item is answered, so it is another one.
      have hrest : item ∈ items := by
        refine (List.mem_cons.mp hitem).resolve_left fun heq => ?_
        subst heq
        cases hserve.symm.trans (serve_of_endless hend)
      simp only [hserve, ih hrest]
    · simp only [hserve]

/-- The cost of a short file leaves room for those of all other parts of a batch. -/
theorem fileCost_le (hs : s.AllRows FileRow.Short) (item : BatchItem) (id : Nat) :
    item.fileCost s id ≤ wordBound / (2 * maxBatch) := by
  unfold BatchItem.fileCost
  cases hfile : s.file? id item.path with
  | none => exact Nat.zero_le _
  | some f =>
    obtain ⟨-, hf⟩ := hs.file? hfile
    have hlength := hf.length
    show f.tokens ≤ _
    rw [hf.measured.tokens, Token.estimate, Token.costOfLength, String.length_toList]
    simp only [maxBatch, wordBound, Token.charsPerToken] at *
    omega

/-- Without such an item a batch of short files is answered. -/
theorem serveAll_of_ends (hrow : requireRepo s repo = .ok row) (hs : s.AllRows FileRow.Short)
    {items : List BatchItem} (hmost : items.length ≤ maxBatch)
    (hends : ∀ item ∈ items, ¬item.Endless s row.id) (maxTokens : Nat) :
    ∃ answer, serveAll s row items { budget := maxTokens } = .ok answer := by
  obtain ⟨entries, count, hall, -⟩ | ⟨-, ⟨item, hitem, hend⟩ | hcosts⟩ :=
    serveAll_oneByOne hrow (measured_of_short hs) items { budget := maxTokens }
  · exact ⟨_, hall⟩
  · exact absurd hend (hends item hitem)
  · have htotal := total_map_le (l := items) fun item _ => fileCost_le hs item row.id
    have hroom : wordBound / (2 * maxBatch) * items.length ≤
        wordBound / (2 * maxBatch) * maxBatch := Nat.mul_le_mul_left _ hmost
    simp only [maxBatch, wordBound] at *
    omega

/-- A batch is without an answer exactly if an item of it is, and else its answer is the one that it
has without bounds. -/
theorem batchQuery?_eq (hs : s.AllRows FileRow.Short) {maxTokens : Nat}
    (hbudget : maxTokens < wordBound) (items : List BatchItem) :
    ((∃ row, requireRepo s repo = .ok row ∧ items.length ≤ maxBatch ∧
        ∃ item ∈ items, item.Endless s row.id) ∧
      batchQuery? s repo items maxTokens = none ∧
      batchQuery s repo items maxTokens = .error .overflow) ∨
    ((∀ row, requireRepo s repo = .ok row → items.length ≤ maxBatch →
        ∀ item ∈ items, ¬item.Endless s row.id) ∧
      batchQuery? s repo items maxTokens = some (batchQuery s repo items maxTokens)) := by
  unfold batchQuery? batchQuery
  by_cases hempty : items.isEmpty = true
  · rw [if_pos hempty, if_pos hempty, List.isEmpty_iff.mp hempty]
    exact .inr ⟨fun _ _ _ _ hitem => (nomatch hitem), rfl⟩
  rw [if_neg hempty, if_neg hempty]
  by_cases hmany : maxBatch < items.length
  · rw [if_pos hmany, if_pos hmany]
    exact .inr ⟨fun _ _ hmost => absurd hmost (Nat.not_le.mpr hmany), rfl⟩
  rw [if_neg hmany, if_neg hmany]
  have hmost : items.length ≤ maxBatch := Nat.not_lt.mp hmany
  cases hrow : requireRepo s repo with
  | error e => exact .inr ⟨fun _ hrow' => (nomatch hrow'), rfl⟩
  | ok row =>
    have hsame := serveAll?_eq hrow hs items (Nat.lt_of_le_of_lt hmost (by decide))
      (a := { budget := maxTokens }) (Nat.zero_le _) hbudget
    dsimp only
    rw [hsame]
    by_cases hends : ∀ item ∈ items, ¬item.Endless s row.id
    · obtain ⟨answer, hall⟩ := serveAll_of_ends hrow hs hmost hends maxTokens
      rw [hall]
      refine .inr ⟨fun row' hrow' _ => ?_, rfl⟩
      cases hrow'
      exact hends
    · push Not at hends
      obtain ⟨item, hitem, hend⟩ := hends
      rw [serveAll_of_endless hrow (measured_of_short hs) hitem hend]
      exact .inl ⟨⟨row, rfl, hmost, item, hitem, hend⟩, rfl, rfl⟩

end Batches

/-- A line that is there, and the last line there can be and whatever follows it. -/
def openEnded : List BatchItem :=
  [{ path := "a.py", first := some 1, last := some 1 },
    { path := "a.py", first := some 0xFFFFFFFFFFFFFFFF }]

end Query

end ContextIndex
