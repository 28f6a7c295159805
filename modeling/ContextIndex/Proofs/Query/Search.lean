import ContextIndex.Proofs.Store.Patterns
import ContextIndex.Proofs.Store.Replacement
import ContextIndex.Proofs.Text.ByteOrder
import ContextIndex.Query.Search

/-!
# What a search finds

A search lists symbols of one repository.  In what order they come is told by the path of the file,
byte by byte, then by the first line, and among symbols on one line by which of them was written
first (`Hit.Before`).  No two symbols stand at one place, so there is one such list of the symbols
that a search finds, and `searchQuery_finds` says that its beginning is the answer.

Which names are found is told by `FindsName`.
-/

namespace ContextIndex

open ContextIndex.Store (FindsName Plain folded containsPattern comparedText likeMatches limited
  maxPatternBytes sortedSymbols)

namespace Query

/-! ## Places of symbols -/

/-- A symbol of a stored file. -/
structure Hit where
  /-- The file. -/
  file : FileRow
  /-- The symbol. -/
  symbol : Symbol
  /-- How many symbols of the file were written before it. -/
  place : Nat

/-- The order in which symbols are found. -/
def Hit.Before (a b : Hit) : Prop :=
  Text.utf8 a.file.path.toList < Text.utf8 b.file.path.toList ∨
    a.file.path = b.file.path ∧ (a.symbol.first < b.symbol.first ∨
      a.symbol.first = b.symbol.first ∧ a.place < b.place)

/-- The symbol is one of a repository that a search finds. -/
structure Hit.Found (e : RepoEntry) (kind : Option SymbolKind) (query : List Char) (h : Hit) :
    Prop where
  file : h.file ∈ e.files
  symbol : h.file.symbols[h.place]? = some h.symbol
  kind : ∀ k ∈ kind, h.symbol.kind = k
  name : FindsName query h.symbol.name.toList

/-- The symbol as it is answered. -/
def Hit.answer (h : Hit) : SymbolMatch :=
  ⟨h.file.path, h.symbol⟩

/-- The symbols of a file with their places, by first line. -/
def placedSymbols (f : FileRow) : List (Symbol × Nat) :=
  f.symbols.zipIdx.mergeSort (List.zipIdxLE fun a b => decide (a.first ≤ b.first))

/-- The symbols of files with their places, file by file. -/
def hits (files : List FileRow) : List Hit :=
  files.flatMap fun f => (placedSymbols f).map fun x => ⟨f, x.1, x.2⟩

theorem map_fst_placedSymbols (f : FileRow) :
    (placedSymbols f).map Prod.fst = sortedSymbols f :=
  List.mergeSort_zipIdx

theorem mem_placedSymbols {f : FileRow} {x : Symbol × Nat} :
    x ∈ placedSymbols f ↔ f.symbols[x.2]? = some x.1 := by
  rw [placedSymbols, (List.mergeSort_perm _ _).mem_iff, List.mem_zipIdx_iff_getElem?]

/-- Sorting by first line keeps symbols of one line in their places. -/
theorem pairwise_placedSymbols (f : FileRow) : (placedSymbols f).Pairwise fun x y =>
    x.1.first < y.1.first ∨ x.1.first = y.1.first ∧ x.2 < y.2 := by
  have htrans (a b c : Symbol) (hab : decide (a.first ≤ b.first) = true)
      (hbc : decide (b.first ≤ c.first) = true) : decide (a.first ≤ c.first) = true :=
    decide_eq_true (Nat.le_trans (of_decide_eq_true hab) (of_decide_eq_true hbc))
  have htotal (a b : Symbol) :
      (decide (a.first ≤ b.first) || decide (b.first ≤ a.first)) = true := by
    simpa using Nat.le_total a.first b.first
  have hsorted := List.pairwise_mergeSort (List.zipIdxLE_trans htrans)
    (List.zipIdxLE_total htotal) f.symbols.zipIdx
  have hplaces : ((placedSymbols f).map Prod.snd).Nodup := by
    refine ((List.mergeSort_perm _ _).map Prod.snd).nodup_iff.mpr ?_
    rw [List.zipIdx_map_snd]
    exact List.nodup_range'
  refine hsorted.imp₂ (fun x y hle hne => ?_) (List.pairwise_map.mp hplaces)
  by_cases hback : y.1.first ≤ x.1.first
  · obtain ⟨hfirst, hplace⟩ : x.1.first ≤ y.1.first ∧ x.2 ≤ y.2 := by
      simpa [List.zipIdxLE, hback] using hle
    exact .inr ⟨Nat.le_antisymm hfirst hback, Nat.lt_of_le_of_ne hplace hne⟩
  · exact .inl (Nat.not_le.mp hback)

theorem mem_hits {files : List FileRow} {h : Hit} :
    h ∈ hits files ↔ h.file ∈ files ∧ h.file.symbols[h.place]? = some h.symbol := by
  unfold hits
  rw [List.mem_flatMap]
  constructor
  · rintro ⟨f, hf, hh⟩
    obtain ⟨x, hx, rfl⟩ := List.mem_map.mp hh
    exact ⟨hf, mem_placedSymbols.mp hx⟩
  · rintro ⟨hf, hsymbol⟩
    exact ⟨h.file, hf, List.mem_map.mpr ⟨(h.symbol, h.place), mem_placedSymbols.mpr hsymbol, rfl⟩⟩

/-- Where the files come by path, so do their symbols. -/
theorem pairwise_hits {files : List FileRow}
    (hfiles : files.Pairwise fun f g => f.path < g.path) : (hits files).Pairwise Hit.Before := by
  unfold hits
  refine List.pairwise_flatMap.mpr ⟨fun f _ => ?_, hfiles.imp fun {f g} hlt => ?_⟩
  · exact List.pairwise_map.mpr ((pairwise_placedSymbols f).imp fun h => .inr ⟨rfl, h⟩)
  · intro a ha b hb
    obtain ⟨x, -, rfl⟩ := List.mem_map.mp ha
    obtain ⟨y, -, rfl⟩ := List.mem_map.mp hb
    exact .inl (Text.utf8_lt_of_lt (String.lt_iff_toList_lt.mp hlt))

/-- Without their places these are the symbols that the store looks through. -/
theorem map_hits (files : List FileRow) :
    (hits files).map (fun h => (h.file.path, h.symbol)) =
      files.flatMap fun f => (sortedSymbols f).map fun y => (f.path, y) := by
  unfold hits
  rw [List.map_flatMap]
  refine congrArg (List.flatMap · files) (funext fun f => ?_)
  rw [← map_fst_placedSymbols, List.map_map, List.map_map]
  rfl

/-- The files of a repository come in the order of their paths, which are all different. -/
theorem pairwise_listFiles {s : Store} (hs : s.WellFormed) (id : Nat) :
    (s.listFiles id).Pairwise fun f g => f.path < g.path :=
  pairwise_lt_mergeSort FileRow.path (hs.nodup_paths id)

/-! ## Searches -/

section Searches

variable {s : Store} {e : RepoEntry} {query : String} {kind : Option SymbolKind} {limit : Nat}

/-- Whether a symbol is one that a search takes. -/
def Hit.matches (kind : Option SymbolKind) (query : List Char) (h : Hit) : Bool :=
  likeMatches (comparedText (containsPattern query)) (comparedText h.symbol.name.toList) &&
    kind.all fun k => h.symbol.kind == k

theorem Hit.found_iff {files : List FileRow} (hfiles : ∀ f, f ∈ files ↔ f ∈ e.files)
    {query : List Char} {h : Hit} :
    h ∈ (hits files).filter (Hit.matches kind query) ↔ h.Found e kind query := by
  have hkind : (kind.all fun k => h.symbol.kind == k) = true ↔ ∀ k ∈ kind, h.symbol.kind = k := by
    cases kind <;> simp
  rw [List.mem_filter, mem_hits, hfiles, Hit.matches, Bool.and_eq_true,
    Store.likeMatches_iff_findsName, hkind]
  exact ⟨fun ⟨⟨hfile, hsymbol⟩, hname, hk⟩ => ⟨hfile, hsymbol, hk, hname⟩,
    fun ⟨hfile, hsymbol, hk, hname⟩ => ⟨⟨hfile, hsymbol⟩, hname, hk⟩⟩

theorem limited_map {α β : Type} (g : α → β) (limit : Nat) (xs : List α) :
    limited limit (xs.map g) = (limited limit xs).map g := by
  unfold limited
  split
  · exact List.map_take.symm
  · rfl

/-- The store gives the symbols that a search takes, in order, as many as are wanted. -/
theorem searchSymbols_eq (hsize : Text.byteLength (containsPattern query.toList) ≤ maxPatternBytes)
    (id : Nat) :
    s.searchSymbols id query kind limit = .ok ((limited limit
      ((hits (s.listFiles id)).filter (Hit.matches kind query.toList))).map fun h =>
        (h.file.path, h.symbol)) := by
  unfold Store.searchSymbols
  rw [← map_hits]
  generalize hits (s.listFiles id) = all
  dsimp only
  split
  · next hnone =>
    -- Nothing is wanted or there is nothing, and the pattern is not even looked at.
    obtain rfl | hempty := hnone
    · rfl
    · obtain rfl : all = [] := by simpa using hempty
      simp [limited]
  · rw [if_neg (Nat.not_lt.mpr hsize), List.filter_map, limited_map]
    rfl

/-- A query that is not blank is answered with what the store gives for it. -/
theorem searchQuery_of_searchSymbols {repo : RepoId} {row : RepoRow}
    (hrow : requireRepo s repo = .ok row) {text : String} (hquery : Text.trimString text = query)
    (hsome : query ≠ "") {found : List (String × Symbol)}
    (hfound : s.searchSymbols row.id query kind limit = .ok found) :
    searchQuery s repo text kind limit =
      .ok (.complete (found.map fun x => ⟨x.1, x.2⟩)
        (jsonCost (matchesJson (found.map fun x => ⟨x.1, x.2⟩)))) := by
  have hempty : ¬query.isEmpty = true := by simpa using hsome
  simp only [searchQuery, hquery, if_neg hempty, hrow, hfound]

/-- The names of what the store gives for a query are those of the answer. -/
theorem names_of_searchSymbols {repo : RepoId} {row : RepoRow}
    (hrow : requireRepo s repo = .ok row) {text : String} (hquery : Text.trimString text = query)
    (hsome : query ≠ "") {names : List String}
    (h : (s.searchSymbols row.id query kind limit).toOption.map
      (fun found => found.map fun x => x.2.name) = some names) :
    ∃ answer, searchQuery s repo text kind limit = .ok answer ∧
      answer.data.map (fun x => x.symbol.name) = names := by
  cases hfound : s.searchSymbols row.id query kind limit with
  | error e => simp [hfound, Except.toOption] at h
  | ok found =>
    refine ⟨_, searchQuery_of_searchSymbols hrow hquery hsome hfound, ?_⟩
    rw [hfound] at h
    simpa [Envelope.complete, Except.toOption, Function.comp_def] using h

end Searches

/-- A search answers with the symbols of the repository that it finds, as many as are wanted: they
come by the bytes of their paths, by first line, and in the order in which they were written.  A
limit that has a sign when it is kept with one is none.  Among plain texts a symbol is found if its
name contains the query, whatever the case of ASCII letters and whatever the query means in a
pattern. -/
theorem searchQuery_finds (ops : List Store.Operation) {s : Store} (hs : s = Store.after ops)
    {repo : RepoId} {row : RepoRow} (hrow : requireRepo s repo = .ok row) {text query : String}
    (hquery : Text.trimString text = query) (hsome : query ≠ "")
    (hsize : Text.byteLength (containsPattern query.toList) ≤ maxPatternBytes)
    (kind : Option SymbolKind) (limit : Nat) :
    (∃ e, s.entryNamed? repo.fullName = some e ∧ ∃ found : List Hit,
      found.Pairwise Hit.Before ∧ (∀ h : Hit, h ∈ found ↔ h.Found e kind query.toList) ∧
      ∃ answer, searchQuery s repo text kind limit = .ok answer ∧
        answer.data = (if limit < signedBound then found.take limit else found).map Hit.answer ∧
        (found.length < signedBound → answer.data = (found.take limit).map Hit.answer) ∧
        answer.totalTokens = jsonCost (matchesJson answer.data) ∧ answer.truncated = false) ∧
    ∀ name, Plain query.toList → Plain name →
      (FindsName query.toList name ↔ folded query.toList <:+: folded name) := by
  have hwell : s.WellFormed := hs ▸ Store.WellFormed.after ops
  obtain ⟨e, he, rfl⟩ := entry_of_getRepo (getRepo_of_requireRepo hrow)
  have hfiles (f : FileRow) : f ∈ s.listFiles e.row.id ↔ f ∈ e.files := by
    rw [Store.mem_listFiles, Store.files, Store.entry?_of_entryNamed? hwell he]
  have hordered := (pairwise_hits (pairwise_listFiles hwell e.row.id)).filter
    (Hit.matches kind query.toList)
  have hfound (h : Hit) := @Hit.found_iff e kind _ hfiles query.toList h
  have hsymbols := @searchSymbols_eq s query kind limit hsize e.row.id
  generalize (hits (s.listFiles e.row.id)).filter (Hit.matches kind query.toList) = found at *
  have hanswer := searchQuery_of_searchSymbols hrow hquery hsome hsymbols
  rw [List.map_map] at hanswer
  refine ⟨⟨e, he, found, hordered, hfound, _, hanswer, rfl, fun hfew => ?_, rfl, rfl⟩,
    fun name hplain hname => Store.findsName_iff_of_plain hplain hname⟩
  show (limited limit found).map Hit.answer = _
  unfold limited
  split
  · rfl
  · next hlimit => rw [List.take_of_length_le (by omega)]

/-- Symbols with an underscore or another character between two letters, in two repositories. -/
def labels : List Store.Operation :=
  [.insertRepo ⟨"octo", "widgets"⟩ {}, .insertRepo ⟨"octo", "gadgets"⟩ {},
    .writeFile 1 ⟨"b.py", "x", "v1", "llm@1", [⟨"A_B", .function, 1, 1, none, none⟩]⟩ ⟨0⟩ false,
    .writeFile 1 ⟨"a.py", "x\ny", "v1", "llm@1", [⟨"a_b2", .function, 2, 2, none, none⟩,
      ⟨"za_b", .function, 1, 1, none, none⟩, ⟨"axb", .function, 1, 1, none, none⟩,
      ⟨"xa_b", .function, 1, 1, none, none⟩]⟩ ⟨0⟩ false,
    .writeFile 2 ⟨"a.py", "x", "v1", "llm@1", [⟨"a_b", .function, 1, 1, none, none⟩]⟩ ⟨0⟩ false]

theorem searchQuery_finds_labels :
    ∃ row, requireRepo (Store.after labels) ⟨"octo", "widgets"⟩ = .ok row ∧
      Text.trimString " a_b " = "a_b" ∧ "a_b" ≠ "" ∧
      Text.byteLength (containsPattern "a_b".toList) ≤ maxPatternBytes ∧
      ∃ e, (Store.after labels).entryNamed? "octo/widgets" = some e ∧ ∃ found : List Hit,
        found.Pairwise Hit.Before ∧ (∀ h : Hit, h ∈ found ↔ h.Found e none "a_b".toList) ∧
        ∃ answer, searchQuery (Store.after labels) ⟨"octo", "widgets"⟩ " a_b " none 3 = .ok answer ∧
          answer.data = (found.take 3).map Hit.answer ∧
          answer.data.map (fun x => x.symbol.name) = ["za_b", "xa_b", "a_b2"] := by
  have hrow : requireRepo (Store.after labels) ⟨"octo", "widgets"⟩ =
    .ok ⟨1, "octo", "widgets", none, none, none, none⟩ := rfl
  have htrim : Text.trimString " a_b " = "a_b" := by decide +kernel
  have hsize : Text.byteLength (containsPattern "a_b".toList) ≤ maxPatternBytes := by
    decide +kernel
  have hnames : ((Store.after labels).searchSymbols 1 "a_b" none 3).toOption.map
      (fun found => found.map fun x => x.2.name) = some ["za_b", "xa_b", "a_b2"] := by cbv
  obtain ⟨answer, hanswer, hanswers⟩ := names_of_searchSymbols hrow htrim (by decide) hnames
  obtain ⟨⟨e, he, found, hordered, hfound, answer', hanswer', hdata, -⟩, -⟩ :=
    searchQuery_finds labels rfl hrow htrim (by decide) hsize none 3
  cases hanswer.symm.trans hanswer'
  exact ⟨_, hrow, htrim, by decide, hsize, e, he, found, hordered, hfound, answer, hanswer, hdata,
    hanswers⟩

/-- A search for a letter and a NUL finds the names that end with the letter, and no name has the
NUL. -/
theorem searchQuery_past_nul :
    ∃ row answer, requireRepo (Store.after labels) ⟨"octo", "widgets"⟩ = .ok row ∧
      Text.trimString "b\x00" = "b\x00" ∧ "b\x00" ≠ "" ∧
      Text.byteLength (containsPattern "b\x00".toList) ≤ maxPatternBytes ∧
      searchQuery (Store.after labels) ⟨"octo", "widgets"⟩ "b\x00" none 9 = .ok answer ∧
      answer.data.map (fun x => x.symbol.name) = ["za_b", "axb", "xa_b", "A_B"] ∧
      ∀ name ∈ answer.data.map (fun x => x.symbol.name),
        ¬folded "b\x00".toList <:+: folded name.toList := by
  have hrow : requireRepo (Store.after labels) ⟨"octo", "widgets"⟩ =
    .ok ⟨1, "octo", "widgets", none, none, none, none⟩ := rfl
  have htrim : Text.trimString "b\x00" = "b\x00" := by decide +kernel
  have hnames : ((Store.after labels).searchSymbols 1 "b\x00" none 9).toOption.map
      (fun found => found.map fun x => x.2.name) = some ["za_b", "axb", "xa_b", "A_B"] := by cbv
  obtain ⟨answer, hanswer, hanswers⟩ := names_of_searchSymbols hrow htrim (by decide) hnames
  refine ⟨_, answer, hrow, htrim, by decide, by decide +kernel, hanswer, hanswers, ?_⟩
  rw [hanswers]
  decide +kernel

end Query

end ContextIndex
