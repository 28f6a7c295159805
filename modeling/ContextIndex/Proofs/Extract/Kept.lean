import Mathlib
import ContextIndex.Proofs.Extract.Placed

/-!
# What the filter keeps

A declaration counts if its name and its range are in order (`Fits`).  Of those that count and have
one name and one first line the first one leads (`Leads`).  The filter keeps the declarations that
lead, in the order of their first lines and else as they came, and changes no more of them than kind
and parent (`settle_keeps`).  What does not count has no say in this, so it never hides what does.
What the filter has left, it leaves as it is when it gets that once more.

Kind and parent are what the containers make of them that are left, too (`settle_places`).
-/

namespace ContextIndex

/-- A declaration without what depends on the containers around it. -/
def Declaration.bare (d : Declaration) : Declaration :=
  { d with kind := .function, parent := none }

namespace Extract

variable {lineCount : Nat}

/-! ## Declarations that count -/

/-- The name and the range of a declaration in a file with this many lines are in order. -/
structure Fits (lineCount : Nat) (d : Declaration) : Prop where
  /-- The name is an identifier. -/
  identifier : isIdentifier d.name = true
  /-- It is no word of control flow. -/
  allowed : isDenied d.name = false
  /-- The range lies in the file. -/
  range : 1 ≤ d.first ∧ d.first ≤ d.last ∧ d.last ≤ lineCount

theorem isAcceptable_iff {d : Declaration} :
    isAcceptable lineCount d = true ↔ Fits lineCount d := by
  simp only [isAcceptable, Bool.and_eq_true, Bool.not_eq_true', decide_eq_true_eq]
  constructor
  · rintro ⟨⟨⟨⟨hname, hallowed⟩, hone⟩, hrange⟩, hlast⟩
    exact ⟨hname, hallowed, hone, hrange, hlast⟩
  · rintro ⟨hname, hallowed, hone, hrange, hlast⟩
    exact ⟨⟨⟨⟨hname, hallowed⟩, hone⟩, hrange⟩, hlast⟩

theorem sameHead_iff {d e : Declaration} :
    sameHead d e = true ↔ d.name = e.name ∧ d.first = e.first := by
  simp [sameHead]

/-! ## Declarations that lead -/

/-- The declaration at this place counts, and none before it that counts has its name and its first
line. -/
structure Leads (lineCount : Nat) (ds : List Declaration) (d : Declaration) (i : Nat) : Prop where
  place : ds[i]? = some d
  fits : Fits lineCount d
  first : ∀ j e, j < i → ds[j]? = some e → Fits lineCount e → ¬(e.name = d.name ∧ e.first = d.first)

/-- The declarations that lead, with their places. -/
def leaders (lineCount : Nat) : List Declaration → List (Declaration × Nat)
  | [] => []
  | d :: ds =>
    let later := (leaders lineCount ds).map fun x => (x.1, x.2 + 1)
    if isAcceptable lineCount d then (d, 0) :: later.filter fun x => !sameHead d x.1 else later

theorem fst_leaders (ds : List Declaration) :
    (leaders lineCount ds).map Prod.fst = firstOfEach (ds.filter (isAcceptable lineCount)) := by
  induction ds with
  | nil => rfl
  | cons d ds ih =>
    rw [leaders, List.filter_cons]
    split
    · rw [firstOfEach, ← ih, List.map_cons, List.filter_map, List.filter_map, List.map_map]
      rfl
    · rw [← ih, List.map_map]
      rfl

theorem leads_cons_zero {d e : Declaration} {ds : List Declaration} :
    Leads lineCount (d :: ds) e 0 ↔ d = e ∧ Fits lineCount d := by
  constructor
  · intro h
    obtain rfl : d = e := by simpa using h.place
    exact ⟨rfl, h.fits⟩
  · rintro ⟨rfl, hfits⟩
    exact ⟨rfl, hfits, nofun⟩

theorem leads_cons_succ {d e : Declaration} {ds : List Declaration} {i : Nat} :
    Leads lineCount (d :: ds) e (i + 1) ↔
      Leads lineCount ds e i ∧ (Fits lineCount d → ¬(d.name = e.name ∧ d.first = e.first)) := by
  constructor
  · intro h
    refine ⟨⟨h.place, h.fits, fun j f hj hf => ?_⟩, h.first 0 d (Nat.succ_pos i) rfl⟩
    exact h.first (j + 1) f (Nat.succ_lt_succ hj) hf
  · rintro ⟨h, hhead⟩
    refine ⟨h.place, h.fits, fun j f hj hf => ?_⟩
    cases j with
    | zero =>
      obtain rfl : d = f := by simpa using hf
      exact hhead
    | succ j => exact h.first j f (Nat.lt_of_succ_lt_succ hj) hf

/-- The places one further on. -/
theorem mem_further {ls : List (Declaration × Nat)} {d : Declaration} {i : Nat} :
    (d, i) ∈ (ls.map fun x => (x.1, x.2 + 1)) ↔ ∃ j, (d, j) ∈ ls ∧ j + 1 = i := by
  simp only [List.mem_map, Prod.exists, Prod.mk.injEq]
  exact ⟨fun ⟨_, j, hj, hd, hi⟩ => ⟨j, hd ▸ hj, hi⟩, fun ⟨j, hj, hi⟩ => ⟨d, j, hj, rfl, hi⟩⟩

theorem mem_leaders {ds : List Declaration} {d : Declaration} {i : Nat} :
    (d, i) ∈ leaders lineCount ds ↔ Leads lineCount ds d i := by
  induction ds generalizing i with
  | nil => exact ⟨nofun, fun h => nomatch h.place⟩
  | cons e ds ih =>
    rw [leaders]
    cases i with
    | zero =>
      rw [leads_cons_zero, ← isAcceptable_iff]
      split
      · next hyes =>
        simp only [List.mem_cons, List.mem_filter, mem_further, hyes]
        simp [@eq_comm _ d e]
      · next hno => simp [mem_further, hno]
    | succ i =>
      rw [leads_cons_succ, ← ih, ← isAcceptable_iff, ← sameHead_iff]
      split
      · next hyes => simp [mem_further, hyes]
      · next hno => simp [mem_further, hno]

theorem pairwise_leaders (ds : List Declaration) :
    (leaders lineCount ds).Pairwise fun x y => x.2 < y.2 := by
  induction ds with
  | nil => exact .nil
  | cons d ds ih =>
    have hlater : ((leaders lineCount ds).map fun x => (x.1, x.2 + 1)).Pairwise
        fun x y => x.2 < y.2 :=
      List.pairwise_map.mpr (ih.imp Nat.succ_lt_succ)
    rw [leaders]
    split
    · refine List.pairwise_cons.mpr ⟨fun x hx => ?_, hlater.sublist List.filter_sublist⟩
      obtain ⟨y, -, rfl⟩ := List.mem_map.mp (List.mem_filter.mp hx).1
      exact Nat.succ_pos y.2
    · exact hlater

/-! ## What is left -/

/-- The declarations that the filter keeps, before they get their parents. -/
def kept (ds : List Declaration) (lineCount : Nat) : List Declaration :=
  (firstOfEach (ds.filter (isAcceptable lineCount))).mergeSort fun d e => d.first ≤ e.first

theorem settle_eq (ds : List Declaration) :
    settle ds lineCount = assignParents (kept ds lineCount) :=
  rfl

theorem mem_kept {ds : List Declaration} {d : Declaration} :
    d ∈ kept ds lineCount ↔ ∃ i, Leads lineCount ds d i := by
  unfold kept
  rw [(List.mergeSort_perm _ _).mem_iff, ← fst_leaders, List.mem_map]
  constructor
  · rintro ⟨⟨e, i⟩, hmem, rfl⟩
    exact ⟨i, mem_leaders.mp hmem⟩
  · rintro ⟨i, hlead⟩
    exact ⟨(d, i), mem_leaders.mpr hlead, rfl⟩

theorem bare_placeIn (containers : List Declaration) (d : Declaration) :
    (placeIn containers d).bare = d.bare := by
  unfold placeIn
  split <;> rfl

theorem bare_assignParents (ds : List Declaration) :
    (assignParents ds).map Declaration.bare = ds.map Declaration.bare := by
  unfold assignParents
  rw [List.map_map]
  exact List.map_congr_left fun d _ => bare_placeIn _ d

/-! ## Once more -/

theorem fits_placeIn {containers : List Declaration} {d : Declaration} (h : Fits lineCount d) :
    Fits lineCount (placeIn containers d) := by
  obtain ⟨hname, hallowed, hrange⟩ := h
  refine ⟨?_, ?_, ?_⟩
  · rw [placeIn_name]
    exact hname
  · rw [placeIn_name]
    exact hallowed
  · rw [(placeIn_range containers d).1, (placeIn_range containers d).2]
    exact hrange

/-- Declarations with different heads are all left. -/
theorem firstOfEach_eq_self {ds : List Declaration}
    (h : ds.Pairwise fun d e => sameHead d e = false) : firstOfEach ds = ds := by
  induction ds with
  | nil => rfl
  | cons d ds ih =>
    obtain ⟨hhead, htail⟩ := List.pairwise_cons.mp h
    rw [firstOfEach, ih htail, List.filter_eq_self.mpr]
    intro e he
    rw [hhead e he]
    rfl

theorem pairwise_firstOfEach (ds : List Declaration) :
    (firstOfEach ds).Pairwise fun d e => sameHead d e = false := by
  induction ds with
  | nil => exact .nil
  | cons d ds ih =>
    refine List.pairwise_cons.mpr ⟨fun e he => ?_, ih.sublist List.filter_sublist⟩
    simpa using (List.mem_filter.mp he).2

theorem sameHead_comm (d e : Declaration) : sameHead d e = sameHead e d := by
  unfold sameHead
  rw [Bool.beq_comm, Bool.beq_comm (a := d.first)]

theorem pairwise_kept (ds : List Declaration) :
    (kept ds lineCount).Pairwise fun d e => sameHead d e = false := by
  refine ((List.mergeSort_perm _ _).pairwise_iff fun {d e} h => ?_).mpr (pairwise_firstOfEach _)
  rw [sameHead_comm]
  exact h

/-- What is left is left as it is. -/
theorem settle_settle (ds : List Declaration) :
    settle (settle ds lineCount) lineCount = settle ds lineCount := by
  have hfits : (settle ds lineCount).filter (isAcceptable lineCount) = settle ds lineCount := by
    rw [List.filter_eq_self, settle_eq, assignParents, List.forall_mem_map]
    intro d hd
    obtain ⟨i, hlead⟩ := mem_kept.mp hd
    exact isAcceptable_iff.mpr (fits_placeIn hlead.fits)
  have hheads : (settle ds lineCount).Pairwise fun d e => sameHead d e = false := by
    rw [settle_eq, assignParents, List.pairwise_map]
    unfold sameHead
    simp only [placeIn_name, placeIn_range]
    exact pairwise_kept ds
  have hkept : kept (settle ds lineCount) lineCount = settle ds lineCount := by
    unfold kept
    rw [hfits, firstOfEach_eq_self hheads]
    exact List.mergeSort_of_pairwise ((pairwise_settle ds lineCount).imp decide_eq_true)
  rw [settle_eq, hkept]
  exact assignParents_assignParents (kept ds lineCount)

/-- The filter keeps the declarations that lead, in the order of their first lines and else as they
came, and changes no more of them than kind and parent.  It leaves the same when what does not count
is left out before, and when it gets once more what it has left. -/
theorem settle_keeps (ds : List Declaration) (lineCount : Nat) :
    (∃ leading : List (Declaration × Nat),
      (∀ d i, (d, i) ∈ leading ↔ Leads lineCount ds d i) ∧
      leading.Pairwise (fun x y => x.2 < y.2) ∧
      InOrderOf Declaration.first (leading.map fun x => x.1.bare)
        ((settle ds lineCount).map Declaration.bare)) ∧
    settle (ds.filter (isAcceptable lineCount)) lineCount = settle ds lineCount ∧
    settle (settle ds lineCount) lineCount = settle ds lineCount := by
  refine ⟨⟨leaders lineCount ds, fun d i => mem_leaders, pairwise_leaders ds, ?_⟩, ?_,
    settle_settle ds⟩
  · have horder : InOrderOf Declaration.first ((leaders lineCount ds).map Prod.fst)
        (kept ds lineCount) := by
      rw [fst_leaders]
      exact inOrderOf_mergeSort Declaration.first _
    have hbare : InOrderOf Declaration.first
        (((leaders lineCount ds).map Prod.fst).map Declaration.bare)
        ((kept ds lineCount).map Declaration.bare) :=
      horder.map Declaration.bare fun _ => rfl
    rw [List.map_map] at hbare
    rw [settle_eq, bare_assignParents]
    exact hbare
  · unfold settle
    rw [List.filter_filter]
    simp only [Bool.and_self]

/-! ## Where it stands -/

/-- The filter gives a declaration the kind and the parent that go with the containers around it
among those that are left. -/
theorem settle_places {ds : List Declaration} {e : Declaration} (h : e ∈ settle ds lineCount) :
    ∃ d i, Leads lineCount ds d i ∧ e.bare = d.bare ∧
      Placed (around (settle ds lineCount) e) d e := by
  obtain ⟨d, hd, rfl⟩ := List.mem_map.mp h
  obtain ⟨i, hlead⟩ := mem_kept.mp hd
  refine ⟨d, i, hlead, bare_placeIn _ d, placed_placeIn (fun c hc => ?_) d⟩
  obtain ⟨_, hleads⟩ := mem_kept.mp hc
  exact hleads.fits.range.2.1

/-- A function in two classes that overlap, reported before they are. -/
def overlapping : List Declaration :=
  [⟨"f", .function, 3, 4, none, none⟩, ⟨"A", .classType, 1, 4, none, none⟩,
    ⟨"B", .classType, 2, 5, none, none⟩]

theorem settle_overlapping : settle overlapping 5 =
    [⟨"A", .classType, 1, 4, none, none⟩, ⟨"B", .classType, 2, 5, none, none⟩,
      ⟨"f", .method, 3, 4, none, some "A"⟩] := by
  unfold overlapping
  cbv

theorem settle_places_overlapping :
    ⟨"f", .method, 3, 4, none, some "A"⟩ ∈ settle overlapping 5 ∧
    ∃ d i, Leads 5 overlapping d i ∧ d.name = "f" ∧
      Placed [⟨"A", .classType, 1, 4, none, none⟩, ⟨"B", .classType, 2, 5, none, none⟩] d
        ⟨"f", .method, 3, 4, none, some "A"⟩ := by
  have hmem : ⟨"f", .method, 3, 4, none, some "A"⟩ ∈ settle overlapping 5 := by
    rw [settle_overlapping]
    decide
  obtain ⟨d, i, hlead, hbare, hplaced⟩ := settle_places hmem
  refine ⟨hmem, d, i, hlead, (congrArg Declaration.name hbare).symm, ?_⟩
  rw [settle_overlapping] at hplaced
  exact hplaced

end Extract

end ContextIndex
