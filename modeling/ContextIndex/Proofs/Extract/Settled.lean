import ContextIndex.Extract.Scan
import ContextIndex.Store.Basic

/-!
# Symbols as they are stored and read

What the shared filter leaves is in the order of first lines, and every range lies in the file
(`Extract.mem_settle`, `Extract.pairwise_settle`).  So the store, which drops ranges outside the
file and reads symbols by first line, gives back all of them in the same order
(`Store.sortedSymbols_row`).  It keeps the kind of a symbol as a text, from which it can be read
(`Store.mapM_symbol?_ofSymbol`).
-/

namespace ContextIndex

/-! ## Sorting by a key -/

/-- A list in the order of a key.  Elements with one key stand as they did before. -/
structure InOrderOf {α : Type} (key : α → Nat) (l sorted : List α) : Prop where
  perm : sorted.Perm l
  ordered : sorted.Pairwise fun a b => key a ≤ key b
  stable : ∀ k, (sorted.filter fun a => key a == k) = l.filter fun a => key a == k

/-- Sorting by a key keeps elements with one key as they stand. -/
theorem inOrderOf_mergeSort {α : Type} (key : α → Nat) (l : List α) :
    InOrderOf key l (l.mergeSort fun a b => decide (key a ≤ key b)) := by
  have htrans (a b c : α) (hab : decide (key a ≤ key b) = true)
      (hbc : decide (key b ≤ key c) = true) : decide (key a ≤ key c) = true :=
    decide_eq_true (Nat.le_trans (of_decide_eq_true hab) (of_decide_eq_true hbc))
  have htotal (a b : α) : (decide (key a ≤ key b) || decide (key b ≤ key a)) = true := by
    simpa using Nat.le_total (key a) (key b)
  have hperm := List.mergeSort_perm l fun a b => decide (key a ≤ key b)
  refine ⟨hperm, (List.pairwise_mergeSort htrans htotal l).imp of_decide_eq_true, fun k => ?_⟩
  have hsame : (l.filter fun a => key a == k).Pairwise fun a b => decide (key a ≤ key b) := by
    refine List.pairwise_of_forall_mem_list fun a ha b hb => ?_
    have hka : key a = k := by simpa using (List.mem_filter.mp ha).2
    have hkb : key b = k := by simpa using (List.mem_filter.mp hb).2
    simp [hka, hkb]
  have hsub := List.sublist_mergeSort htrans htotal hsame List.filter_sublist
  have hkept : (l.filter fun a => key a == k).Sublist
      ((l.mergeSort fun a b => decide (key a ≤ key b)).filter fun a => key a == k) := by
    have := hsub.filter fun a => key a == k
    rwa [List.filter_filter, show (fun a => key a == k && key a == k) = fun a => key a == k from
      funext fun a => Bool.and_self _] at this
  exact (hkept.eq_of_length (hperm.filter _).length_eq.symm).symm

/-- An order is kept by whatever keeps the key. -/
theorem InOrderOf.map {α β : Type} {key : α → Nat} {key' : β → Nat} {l sorted : List α}
    (h : InOrderOf key l sorted) (f : α → β) (hf : ∀ a, key' (f a) = key a) :
    InOrderOf key' (l.map f) (sorted.map f) where
  perm := h.perm.map f
  ordered := by
    rw [List.pairwise_map]
    simpa only [hf] using h.ordered
  stable k := by
    simp only [List.filter_map, Function.comp_def, hf, h.stable]

/-- Sorting by texts that all differ puts them in order. -/
theorem pairwise_lt_mergeSort {α : Type} (key : α → String) {l : List α}
    (h : (l.map key).Nodup) :
    (l.mergeSort fun a b => decide (key a ≤ key b)).Pairwise fun a b => key a < key b := by
  have htrans (a b c : α) (hab : decide (key a ≤ key b) = true)
      (hbc : decide (key b ≤ key c) = true) : decide (key a ≤ key c) = true :=
    decide_eq_true (String.le_trans (of_decide_eq_true hab) (of_decide_eq_true hbc))
  have htotal (a b : α) : (decide (key a ≤ key b) || decide (key b ≤ key a)) = true := by
    simpa using String.le_total (key a) (key b)
  have hne : (l.mergeSort fun a b => decide (key a ≤ key b)).Pairwise fun a b => key a ≠ key b :=
    List.pairwise_map.mp (((List.mergeSort_perm _ _).map key).nodup_iff.mpr h)
  refine (List.pairwise_mergeSort htrans htotal l).imp₂ (fun a b hle hne => ?_) hne
  exact String.not_le.mp fun hge => hne (String.le_antisymm (of_decide_eq_true hle) hge)

namespace Extract

/-! ## Innermost containers -/

theorem leastBy?_eq_none {α : Type} {key : α → Nat} {as : List α} (h : leastBy? key as = none) :
    as = [] := by
  cases as with
  | nil => rfl
  | cons a as =>
    unfold leastBy? at h
    split at h
    · cases h
    · split at h <;> cases h

theorem leastBy?_eq_some {α : Type} {key : α → Nat} {as : List α} {m : α}
    (h : leastBy? key as = some m) : m ∈ as ∧ ∀ a ∈ as, key m ≤ key a := by
  induction as generalizing m with
  | nil => cases h
  | cons a as ih =>
    unfold leastBy? at h
    split at h
    · next hnone =>
      cases h
      simp [leastBy?_eq_none hnone]
    · next b hb =>
      obtain ⟨hmem, hleast⟩ := ih hb
      split at h
      · next hlt =>
        cases h
        exact ⟨.tail _ hmem, List.forall_mem_cons.mpr ⟨Nat.le_of_lt hlt, hleast⟩⟩
      · next hge =>
        cases h
        have hle := Nat.le_of_not_lt hge
        exact ⟨.head _, List.forall_mem_cons.mpr
          ⟨Nat.le_refl _, fun x hx => Nat.le_trans hle (hleast x hx)⟩⟩

theorem placeIn_name (containers : List Declaration) (d : Declaration) :
    (placeIn containers d).name = d.name := by
  unfold placeIn
  split <;> rfl

theorem placeIn_range (containers : List Declaration) (d : Declaration) :
    (placeIn containers d).first = d.first ∧ (placeIn containers d).last = d.last := by
  unfold placeIn
  split <;> exact ⟨rfl, rfl⟩

theorem placeIn_signature (containers : List Declaration) (d : Declaration) :
    (placeIn containers d).signature = d.signature := by
  unfold placeIn
  split <;> rfl

/-- A function that becomes a method is no container before or after. -/
theorem isContainer_placeIn (containers : List Declaration) (d : Declaration) :
    (placeIn containers d).kind.isContainer = d.kind.isContainer := by
  unfold placeIn
  split
  · rfl
  · cases hkind : d.kind <;> simp [SymbolKind.isContainer]

theorem parent_placeIn {containers : List Declaration} {d : Declaration} (h : d.parent = none) :
    (placeIn containers d).parent = (innermost? containers d).map Declaration.name := by
  unfold placeIn
  cases innermost? containers d <;> simp [h]

/-! ## What the filter leaves -/

theorem mem_of_mem_firstOfEach {d : Declaration} {ds : List Declaration}
    (h : d ∈ firstOfEach ds) : d ∈ ds := by
  induction ds with
  | nil => exact h
  | cons e ds ih =>
    cases h with
    | head => exact .head _
    | tail _ h => exact .tail _ (ih (List.mem_filter.mp h).1)

/-- A declaration that is left is an acceptable one in its place. -/
theorem exists_of_mem_settle {ds : List Declaration} {lineCount : Nat} {d : Declaration}
    (h : d ∈ settle ds lineCount) :
    ∃ e ∈ ds, isAcceptable lineCount e = true ∧ ∃ containers, placeIn containers e = d := by
  obtain ⟨e, he, hplaced⟩ := List.mem_map.mp h
  have hkept := mem_of_mem_firstOfEach ((List.mergeSort_perm _ _).mem_iff.mp he)
  obtain ⟨hmem, haccept⟩ := List.mem_filter.mp hkept
  exact ⟨e, hmem, haccept, _, hplaced⟩

/-- A declaration that is left has a range that lies in the file. -/
theorem mem_settle {ds : List Declaration} {lineCount : Nat} {d : Declaration}
    (h : d ∈ settle ds lineCount) : 1 ≤ d.first ∧ d.first ≤ d.last ∧ d.last ≤ lineCount := by
  obtain ⟨e, -, haccept, containers, rfl⟩ := exists_of_mem_settle h
  simp only [isAcceptable, Bool.and_eq_true, decide_eq_true_eq] at haccept
  rw [(placeIn_range containers e).1, (placeIn_range containers e).2]
  exact ⟨haccept.1.1.2, haccept.1.2, haccept.2⟩

/-- The filter changes no signature. -/
theorem signature_of_mem_settle {ds : List Declaration} {lineCount : Nat} {d : Declaration}
    (h : d ∈ settle ds lineCount) : ∃ e ∈ ds, e.signature = d.signature := by
  obtain ⟨e, hmem, -, containers, rfl⟩ := exists_of_mem_settle h
  exact ⟨e, hmem, (placeIn_signature containers e).symm⟩

/-- The declarations that are left are in the order of their first lines. -/
theorem pairwise_settle (ds : List Declaration) (lineCount : Nat) :
    (settle ds lineCount).Pairwise fun d e => d.first ≤ e.first := by
  unfold settle assignParents
  rw [List.pairwise_map]
  simp only [(placeIn_range _ _).1]
  exact (inOrderOf_mergeSort Declaration.first _).ordered

end Extract

namespace Store

/-! ## What the store gives back -/

/-- If the filter has settled the declarations of a file, the store keeps all of them, and in the
same order. -/
theorem sortedSymbols_row {x : FileWrite} {ds : List Declaration}
    (h : x.symbols = Extract.settle ds x.lineCount) (id : Nat) (now : Instant) :
    sortedSymbols (x.row id now) = x.symbols.map (symbolOf x.content.toList) := by
  have hrange : x.symbols.filter (inRange x.lineCount) = x.symbols := by
    rw [List.filter_eq_self]
    intro d hd
    rw [h] at hd
    obtain ⟨hfirst, hrange, hlast⟩ := Extract.mem_settle hd
    simp [inRange, hfirst, hrange, hlast]
  have hrows : (x.row id now).symbols = x.symbols.map (symbolOf x.content.toList) := by
    unfold FileWrite.row FileWrite.rows
    rw [hrange]
  unfold sortedSymbols
  rw [hrows]
  apply List.mergeSort_of_pairwise
  rw [List.pairwise_map, h]
  exact (Extract.pairwise_settle ds x.lineCount).imp fun hle => decide_eq_true hle

/-- A symbol as its table holds it, with the name of its kind. -/
structure SymbolRecord where
  /-- The declared name. -/
  name : String
  /-- The name of its kind. -/
  kind : String
  /-- The first line of its range. -/
  first : Nat
  /-- The last line of its range. -/
  last : Nat
  /-- The text of its head, if known. -/
  signature : Option String
  /-- The token cost of its lines. -/
  tokens : Nat
  /-- The name of the innermost container around it, if known. -/
  parent : Option String
deriving DecidableEq, Repr

/-- What is written for a symbol. -/
def SymbolRecord.ofSymbol (y : Symbol) : SymbolRecord :=
  ⟨y.name, y.kind.label, y.first, y.last, y.signature, y.tokens, y.parent⟩

/-- The symbol that is read, unless no kind has that name. -/
def SymbolRecord.symbol? (r : SymbolRecord) : Option Symbol :=
  (SymbolKind.parse? r.kind).map fun kind =>
    ⟨r.name, kind, r.first, r.last, r.signature, r.tokens, r.parent⟩

/-- Symbols that are written are read as they were. -/
theorem mapM_symbol?_ofSymbol (ys : List Symbol) :
    (ys.map SymbolRecord.ofSymbol).mapM SymbolRecord.symbol? = some ys := by
  induction ys with
  | nil => rfl
  | cons y ys ih =>
    simp [SymbolRecord.symbol?, SymbolRecord.ofSymbol, SymbolKind.parse?_label, ih]

end Store

end ContextIndex
