import ContextIndex.Proofs.Extract.Settled
import ContextIndex.Proofs.Store.Replacement
import ContextIndex.Query.File

/-!
# Symbols that are stored and symbols that are found

A function is looked up among the stored symbols of its file, and if there is none of that name in
the text.  If the rules have found the symbols of a file, then it does not matter which of the two
it is: the symbols are read in the order in which the rules find them (`FileRow.InStep`), so the
first one of a name has the same lines in both, and in the text there is one only if one is stored.

`lookups_agree` says this of every file that was written with what the rules find in it, until it is
written again or deleted.
-/

namespace ContextIndex

/-! ## Rows with the symbols of their text -/

/-- The symbols of a file are read as the rules find them in its text, in the same order. -/
def FileRow.InStep (f : FileRow) : Prop :=
  Store.sortedSymbols f =
    (Extract.declarations f.content f.language).map (Store.symbolOf f.content.toList)

/-- The same file without any symbols, so that they have to be found in the text. -/
def FileRow.unread (f : FileRow) : FileRow :=
  { f with symbols := [] }

/-- A range of lines, of a symbol that is stored. -/
def Symbol.range (y : Symbol) : Nat × Nat :=
  (y.first, y.last)

/-- A range of lines, of a declaration in a text. -/
def Declaration.range (d : Declaration) : Nat × Nat :=
  (d.first, d.last)

theorem Store.inStep_row {x : Store.FileWrite}
    (h : x.symbols = Extract.declarations x.content (Language.ofPath x.path)) (id : Nat)
    (now : Instant) : (x.row id now).InStep := by
  have hsettled : x.symbols = Extract.settle
      (Extract.rawDeclarations x.content (Language.ofPath x.path)) x.lineCount := h
  rw [FileRow.InStep, Store.sortedSymbols_row hsettled, h]
  rfl

theorem Store.findSymbol_unread (f : FileRow) (name : String) :
    Store.findSymbol f.unread name [] = none := by
  simp [Store.findSymbol, Store.sortedSymbols, FileRow.unread]

section InStep

variable {f : FileRow} (h : f.InStep)

include h

/-- The first symbol of a name that is stored is the first declaration of that name in the text. -/
theorem FileRow.InStep.findSymbol_eq (name : String) : Store.findSymbol f name [] =
    ((Extract.declarations f.content f.language).find? fun d => d.name == name).map
      (Store.symbolOf f.content.toList) := by
  unfold Store.findSymbol
  rw [h, List.find?_map]
  simp [Function.comp_def, Store.symbolOf]

theorem FileRow.InStep.range_eq (name : String) :
    (Store.findSymbol f name []).map Symbol.range =
      ((Extract.declarations f.content f.language).find? fun d => d.name == name).map
        Declaration.range := by
  rw [h.findSymbol_eq, Option.map_map]
  rfl

/-- Without its symbols the file is answered for as with them. -/
theorem FileRow.InStep.selectRange_unread (name : String) :
    Query.selectRange f.unread (.function name) = Query.selectRange f (.function name) := by
  have hlive : Extract.declarations f.unread.content f.unread.language =
      Extract.declarations f.content f.language := rfl
  simp only [Query.selectRange, Store.findSymbol_unread, hlive, h.findSymbol_eq]
  cases (Extract.declarations f.content f.language).find? fun d => d.name == name <;> rfl

theorem FileRow.InStep.sliceOf_unread (name : String) (budget : Nat) :
    Query.sliceOf f.unread (.function name) budget = Query.sliceOf f (.function name) budget := by
  unfold Query.sliceOf
  rw [h.selectRange_unread name]
  rfl

end InStep

/-! ## Requests that leave a file alone -/

namespace Store

/-- A request neither writes nor deletes the file at a path of a repository. -/
def Operation.LeavesAlone (repo : Nat) (path : String) : Operation → Prop
  | writeFile r file _ _ => ¬(r = repo ∧ file.path = path)
  | deleteFile r p => ¬(r = repo ∧ p = path)
  | _ => True

variable {repo : Nat} {path : String}

theorem file?_run {o : Operation} (ho : o.LeavesAlone repo path) (s : Store) :
    (o.run s).file? repo path = s.file? repo path := by
  cases o with
  | insertRepo r m => exact file?_insertRepo s r m repo path
  | recordSync r revision time => exact file?_recordSync s r revision time repo path
  | writeFile r file now force =>
    have hother : ¬(repo = r ∧ path = file.path) := fun ⟨hr, hp⟩ => ho ⟨hr.symm, hp.symm⟩
    show (s.writeFile r file now force).2.file? repo path = _
    cases hw : s.writeFile r file now force with
    | mk result t =>
      obtain ⟨-, -, -, rfl⟩ | ⟨-, ⟨-, -, rfl⟩ | ⟨e, id, next, he, -, rfl⟩⟩ := writeFile_cases hw
      · rfl
      · rfl
      · exact (file?_putRow he _ next repo path).trans (if_neg hother)
  | deleteFile r p =>
    show (s.deleteFile r p).2.file? repo path = _
    rw [file?_deleteFile, if_neg fun ⟨hr, hp⟩ => ho ⟨hr.symm, hp.symm⟩]
  | acquireLease key holder now expiresAt =>
    exact file?_of_repos (repos_acquireLease s key holder now expiresAt).1 repo path
  | renewLease key holder expiresAt => exact file?_of_repos rfl repo path
  | releaseLease key holder => exact file?_of_repos rfl repo path

theorem file?_foldl {ops : List Operation} (hops : ∀ o ∈ ops, o.LeavesAlone repo path) (s : Store) :
    (ops.foldl Operation.run s).file? repo path = s.file? repo path := by
  induction ops generalizing s with
  | nil => rfl
  | cons o ops ih =>
    obtain ⟨ho, hrest⟩ := List.forall_mem_cons.mp hops
    exact (ih hrest (o.run s)).trans (file?_run ho s)

/-- A write that is carried out leaves the row that it brings. -/
theorem file?_of_written {s : Store} {x : FileWrite} {now : Instant} {force : Bool} {count : Nat}
    (h : (s.writeFile repo x now force).1 = .ok (.written count)) :
    ∃ id, (s.writeFile repo x now force).2.file? repo x.path = some (x.row id now) := by
  cases hw : s.writeFile repo x now force with
  | mk result t =>
    rw [hw] at h
    obtain ⟨-, -, rfl, -⟩ | ⟨-, ⟨-, rfl, -⟩ | ⟨e, id, next, he, -, rfl⟩⟩ := writeFile_cases hw
    · cases h
    · cases h
    · exact ⟨id, (file?_putRow he _ next repo x.path).trans (if_pos ⟨rfl, rfl⟩)⟩

end Store

namespace Query

/-- A file that was written with what the rules find in its text has the same lines for a name in
the store and in the text, and none in the one if it has none in the other.  So a query for a
function of it has the answer that it would have if no symbols were stored, until the file is
written again or deleted. -/
theorem lookups_agree {x : Store.FileWrite}
    (hfound : x.symbols = Extract.declarations x.content (Language.ofPath x.path))
    {before later : List Store.Operation} {id : Nat} {now : Instant} {force : Bool} {count : Nat}
    (hwritten : ((Store.after before).writeFile id x now force).1 = .ok (.written count))
    (hlater : ∀ o ∈ later, o.LeavesAlone id x.path) {s : Store}
    (hs : s = Store.after (before ++ .writeFile id x now force :: later)) :
    ∃ f, s.file? id x.path = some f ∧ f.content = x.content ∧
      f.language = Language.ofPath x.path ∧ ∀ name,
        (Store.findSymbol f name []).map Symbol.range =
          ((Extract.declarations f.content f.language).find? fun d => d.name == name).map
            Declaration.range ∧
        ∀ repo row budget, requireRepo s repo = .ok row → row.id = id →
          fileQuery s repo x.path (.function name) budget =
            sliceOf f.unread (.function name) budget := by
  obtain ⟨number, hrow⟩ := Store.file?_of_written hwritten
  have hstored : s.file? id x.path = some (x.row number now) := by
    rw [hs, Store.after, List.foldl_append, List.foldl_cons]
    exact (Store.file?_foldl hlater _).trans hrow
  have hstep := Store.inStep_row hfound number now
  refine ⟨x.row number now, hstored, rfl, rfl, fun name => ⟨hstep.range_eq name, ?_⟩⟩
  rintro repo row budget hrepo rfl
  simp only [fileQuery, requireFile, hrepo, hstored]
  exact (hstep.sliceOf_unread name budget).symm

/-- Two functions on one line, and another one of the name of the second. -/
def twins : Store.FileWrite :=
  { path := "a.rs", content := "fn g() \x7b\x7d fn f() \x7b\x7d\nfn f() \x7b\n\x7d"
    contentId := "v1"
    extractor := Extract.byRules.tag
    symbols := [⟨"g", .function, 1, 1, some "fn g(", none⟩,
      ⟨"f", .function, 1, 1, some "fn f(", none⟩, ⟨"f", .function, 2, 3, some "fn f(", none⟩] }

theorem lookups_agree_twins :
    twins.symbols = Extract.declarations twins.content (Language.ofPath twins.path) ∧
    ((Store.after [.insertRepo ⟨"octo", "widgets"⟩ {}]).writeFile 1 twins ⟨0⟩ false).1 =
      .ok (.written 3) ∧
    ∃ s f, s = Store.after [.insertRepo ⟨"octo", "widgets"⟩ {}, .writeFile 1 twins ⟨0⟩ false,
        .deleteFile 1 "b.rs"] ∧
      (Store.findSymbol f "f" []).map Symbol.range = some (1, 1) ∧
      ((Extract.declarations f.content f.language).find? fun d => d.name == "f").map
        Declaration.range = some (1, 1) ∧
      fileQuery s ⟨"octo", "widgets"⟩ "a.rs" (.function "f") 9 =
        sliceOf f.unread (.function "f") 9 ∧
      Store.findSymbol f "h" [] = none ∧
      ((Extract.declarations f.content f.language).find? fun d => d.name == "h") = none := by
  have hlanguage : Language.ofPath twins.path = "rust" := by
    unfold twins
    cbv
  have hfound : twins.symbols =
      Extract.declarations twins.content (Language.ofPath twins.path) := by
    rw [hlanguage]
    unfold twins
    cbv
  have hwritten : ((Store.after [.insertRepo ⟨"octo", "widgets"⟩ {}]).writeFile 1 twins ⟨0⟩
      false).1 = .ok (.written 3) := rfl
  have hlater : ∀ o ∈ [Store.Operation.deleteFile 1 "b.rs"], o.LeavesAlone 1 twins.path := by
    simp [Store.Operation.LeavesAlone, twins]
  generalize hs : Store.after [.insertRepo ⟨"octo", "widgets"⟩ {}, .writeFile 1 twins ⟨0⟩ false,
    .deleteFile 1 "b.rs"] = s
  have hrow : requireRepo s ⟨"octo", "widgets"⟩ =
    .ok ⟨1, "octo", "widgets", none, none, none, none⟩ := hs ▸ rfl
  obtain ⟨f, hfile, hcontent, hf, hnames⟩ := lookups_agree hfound hwritten hlater hs.symm
  have hstored : s.file? 1 "a.rs" = some (twins.row 1 ⟨0⟩) := by
    rw [← hs]
    decide +kernel
  obtain rfl : f = twins.row 1 ⟨0⟩ := Option.some.inj (hfile.symm.trans hstored)
  have hfirst : (Store.findSymbol (twins.row 1 ⟨0⟩) "f" []).map Symbol.range = some (1, 1) := by
    cbv
  have hnone : Store.findSymbol (twins.row 1 ⟨0⟩) "h" [] = none := by cbv
  obtain ⟨hsame, hanswer⟩ := hnames "f"
  have hlive := (hnames "h").1
  rw [hnone, Option.map_none, eq_comm, Option.map_eq_none_iff] at hlive
  exact ⟨hfound, hwritten, s, _, rfl, hfirst, hsame.symm.trans hfirst, hanswer _ _ 9 hrow rfl,
    hnone, hlive⟩

end Query

end ContextIndex
