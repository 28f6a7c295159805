import ContextIndex.Proofs.Extract.Settled

/-!
# Parents of declarations

The filter looks for the parent of a declaration among the containers that enclose it (`around`),
and takes the one with the fewest lines, the first of those if there are several.  Such a container
encloses no other one that encloses the declaration, also where ranges overlap (`placed_placeIn`).

That a function becomes a method makes it no container and takes nothing from the ones there are, so
the containers around a declaration are the same before and after (`around_assignParents`), and
assigning parents once more changes nothing (`assignParents_assignParents`).
-/

namespace ContextIndex

theorem Declaration.encloses_iff {c d : Declaration} : c.encloses d = true ↔
    c.first ≤ d.first ∧ d.last ≤ c.last ∧ ¬(c.first = d.first ∧ c.last = d.last) := by
  simp only [encloses, rangeEncloses, Bool.and_eq_true, decide_eq_true_eq, Bool.not_eq_true',
    Bool.and_eq_false_iff, beq_eq_false_iff_ne]
  omega

namespace Extract

/-- The containers among declarations that enclose a declaration. -/
def around (ds : List Declaration) (d : Declaration) : List Declaration :=
  ds.filter fun c => c.kind.isContainer && c.encloses d

theorem mem_around {ds : List Declaration} {c d : Declaration} :
    c ∈ around ds d ↔ c ∈ ds ∧ c.kind.isContainer = true ∧ c.encloses d = true := by
  unfold around
  rw [List.mem_filter, Bool.and_eq_true]

theorem innermost?_containers (ds : List Declaration) (d : Declaration) :
    innermost? (ds.filter fun c => c.kind.isContainer) d =
      leastBy? (fun c => c.last - c.first) (around ds d) := by
  unfold innermost? around
  rw [List.filter_filter]
  simp only [Bool.and_comm]

/-! ## Containers before and after -/

theorem encloses_placeIn_placeIn (containers : List Declaration) (c d : Declaration) :
    (placeIn containers c).encloses (placeIn containers d) = c.encloses d := by
  unfold Declaration.encloses
  simp only [placeIn_range]

/-- The containers around a declaration stay the same. -/
theorem around_assignParents (ds : List Declaration) (d : Declaration) :
    around (assignParents ds) (placeIn (ds.filter fun c => c.kind.isContainer) d) =
      (around ds d).map (placeIn (ds.filter fun c => c.kind.isContainer)) := by
  unfold around assignParents
  rw [List.filter_map]
  simp only [Function.comp_def, isContainer_placeIn, encloses_placeIn_placeIn]

theorem leastBy?_map {α β : Type} {key : β → Nat} (f : α → β) (as : List α) :
    leastBy? key (as.map f) = (leastBy? (fun a => key (f a)) as).map f := by
  induction as with
  | nil => rfl
  | cons a as ih =>
    rw [List.map_cons, leastBy?, leastBy?, ih]
    cases leastBy? (fun a => key (f a)) as with
    | none => rfl
    | some b => simp only [Option.map_some, apply_ite (Option.map f)]

/-- What has been placed is in its place. -/
theorem placeIn_placeIn {containers again : List Declaration} {d : Declaration}
    (h : innermost? again (placeIn containers d) =
      (innermost? containers d).map (placeIn containers)) :
    placeIn again (placeIn containers d) = placeIn containers d := by
  cases hinner : innermost? containers d with
  | none =>
    have hplaced : placeIn containers d = d := by simp [placeIn, hinner]
    rw [hinner, hplaced] at h
    rw [hplaced]
    simp [placeIn, h]
  | some c =>
    rw [hinner] at h
    have hkind : (placeIn containers d).kind ≠ .function := by
      simp only [placeIn, hinner]
      split <;> simp_all
    have hparent : (placeIn containers d).parent = some (d.parent.getD c.name) := by
      simp only [placeIn, hinner]
    rw [placeIn, h]
    simp only [Option.map_some, hparent, Option.getD_some, if_neg hkind]
    rw [← hparent]

/-- Assigning parents once more changes nothing. -/
theorem assignParents_assignParents (ds : List Declaration) :
    assignParents (assignParents ds) = assignParents ds := by
  have hplaced (d : Declaration) :
      placeIn ((assignParents ds).filter fun c => c.kind.isContainer)
        (placeIn (ds.filter fun c => c.kind.isContainer) d) =
      placeIn (ds.filter fun c => c.kind.isContainer) d := by
    refine placeIn_placeIn ?_
    rw [innermost?_containers, around_assignParents, leastBy?_map, innermost?_containers]
    simp only [placeIn_range]
  exact List.map_map.trans (List.map_congr_left fun d _ => hplaced d)

/-! ## The place of a declaration -/

/-- A declaration and what it has become, in view of the containers that enclose it. -/
structure Placed (containers : List Declaration) (d e : Declaration) : Prop where
  /-- A parent that came with it stays. -/
  given : ∀ p, d.parent = some p → e.parent = some p
  /-- Where no container is around it, nothing changes. -/
  outside : containers = [] → e.parent = d.parent ∧ e.kind = d.kind
  /-- Else a function becomes a method, and nothing else changes its kind. -/
  kind : containers ≠ [] → e.kind = if d.kind = .function then .method else d.kind
  /-- And if it came without a parent, it gets an innermost container as parent. -/
  innermost : containers ≠ [] → d.parent = none →
    ∃ c ∈ containers, e.parent = some c.name ∧ ∀ b ∈ containers, c.encloses b = false

/-- Of two containers with proper ranges the one with more lines is not inside the other. -/
theorem encloses_eq_false {b c : Declaration} (hb : b.first ≤ b.last)
    (h : c.last - c.first ≤ b.last - b.first) : c.encloses b = false := by
  rw [Bool.eq_false_iff, ne_eq, Declaration.encloses_iff]
  omega

/-- Placing a declaration among declarations with proper ranges. -/
theorem placed_placeIn {ds : List Declaration} (hrange : ∀ c ∈ ds, c.first ≤ c.last)
    (d : Declaration) :
    Placed (around (assignParents ds) (placeIn (ds.filter fun c => c.kind.isContainer) d)) d
      (placeIn (ds.filter fun c => c.kind.isContainer) d) := by
  rw [around_assignParents]
  have hinner := innermost?_containers ds d
  generalize ds.filter (fun c => c.kind.isContainer) = containers at hinner ⊢
  cases hleast : leastBy? (fun c => c.last - c.first) (around ds d) with
  | none =>
    rw [hleast] at hinner
    have hplaced : placeIn containers d = d := by simp [placeIn, hinner]
    rw [hplaced, leastBy?_eq_none hleast]
    exact ⟨fun p hp => hp, fun _ => ⟨rfl, rfl⟩, fun h => absurd rfl h, fun h => absurd rfl h⟩
  | some c =>
    rw [hleast] at hinner
    obtain ⟨hc, hshort⟩ := leastBy?_eq_some hleast
    have hplaced : placeIn containers d = { d with
        parent := some (d.parent.getD c.name)
        kind := if d.kind = .function then .method else d.kind } := by
      simp only [placeIn, hinner]
    refine ⟨fun p hp => ?_, fun h => ?_, fun _ => ?_, fun _ hnone => ?_⟩
    · rw [hplaced, hp]
      rfl
    · rw [List.map_eq_nil_iff] at h
      rw [h] at hc
      cases hc
    · rw [hplaced]
    · refine ⟨placeIn containers c, List.mem_map_of_mem hc, ?_, ?_⟩
      · rw [hplaced, hnone, placeIn_name]
        rfl
      · rw [List.forall_mem_map]
        intro b hb
        rw [encloses_placeIn_placeIn]
        exact encloses_eq_false (hrange b (mem_around.mp hb).1) (hshort b hb)

end Extract

end ContextIndex
