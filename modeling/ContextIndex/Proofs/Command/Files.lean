import ContextIndex.Command.Run
import Mathlib.Data.List.TakeDrop
import Mathlib.Tactic.SplitIfs

/-!
# New files

A path that leads nowhere can still be written to, if all of it but the last name leads to a directory
and a file may have that name (`Disk.Vacant`, `Disk.vacant_of_writeText`).  Then it leads to the new
file, and the file holds what was written (`Disk.Vacant.readText_put`): the directory was there
already, so no other place becomes one, and whatever led somewhere leads there still
(`Disk.Vacant.locate_put`).  Whether a text can be written does not depend on the text
(`exists_writeText`).
-/

namespace ContextIndex.Command

namespace Disk

variable {d : Disk} {place : Place} {parts : List String} {name : String}

/-! ## Entries -/

theorem putAt_of_forall_ne {es : List (Place × Entry)} (h : ∀ x ∈ es, x.1 ≠ place) (e : Entry) :
    putAt place e es = es ++ [(place, e)] := by
  induction es with
  | nil => rfl
  | cons x es ih =>
    obtain ⟨hx, hes⟩ := List.forall_mem_cons.mp h
    rw [putAt, if_neg hx, ih hes, List.cons_append]

/-- With nothing below a place, there is what the entry says. -/
theorem entry?_eq_lookup (h : ∀ x ∈ d.entries, place <+: x.1 → x.1 = place) :
    d.entry? place = d.entries.lookup place := by
  refine if_neg fun hany => ?_
  obtain ⟨⟨p, e⟩, hx, hbelow⟩ := List.any_eq_true.mp hany
  rw [Bool.and_eq_true, List.isPrefixOf_iff_prefix, bne_iff_ne] at hbelow
  exact hbelow.2 (h (p, e) hx hbelow.1)

theorem entry?_of_below {x : Place × Entry} (hx : x ∈ d.entries) (hbelow : place <+: x.1)
    (hne : x.1 ≠ place) : d.entry? place = some .directory := by
  refine if_pos (List.any_eq_true.mpr ⟨x, hx, ?_⟩)
  simpa [List.isPrefixOf_iff_prefix, hne] using hbelow

/-- There is nothing at a place if there is no entry there and none below. -/
theorem entry?_eq_none_iff : d.entry? place = none ↔ ∀ x ∈ d.entries, ¬place <+: x.1 := by
  constructor
  · intro h x hx hprefix
    by_cases hbelow : ∀ y ∈ d.entries, place <+: y.1 → y.1 = place
    · rw [entry?_eq_lookup hbelow, List.lookup_eq_none_iff] at h
      have hat := h x hx
      simp [hbelow x hx hprefix] at hat
    · simp only [not_forall] at hbelow
      obtain ⟨y, hy, hbelow, hne⟩ := hbelow
      rw [entry?_of_below hy hbelow hne] at h
      cases h
  · intro h
    rw [entry?_eq_lookup fun x hx hprefix => absurd hprefix (h x hx), List.lookup_eq_none_iff]
    intro x hx
    have hat : place ≠ x.1 := fun heq => h x hx (heq ▸ List.prefix_rfl)
    simpa using hat

theorem entry?_of_isDirectory (h : d.isDirectory place = true) :
    d.entry? place = some .directory := by
  unfold isDirectory at h
  split at h
  · assumption
  · cases h

/-- Above a directory there are directories. -/
theorem entry?_above (h : d.isDirectory place = true) {q : Place} (hq : q <+: place) :
    d.entry? q = some .directory := by
  by_cases hne : q = place
  · exact hne ▸ entry?_of_isDirectory h
  · have hsome : ¬∀ x ∈ d.entries, ¬place <+: x.1 := by
      rw [← entry?_eq_none_iff, entry?_of_isDirectory h]
      exact nofun
    simp only [not_forall, not_not] at hsome
    obtain ⟨x, hx, hbelow⟩ := hsome
    refine entry?_of_below hx (hq.trans hbelow) ?_
    rintro rfl
    exact hne (hq.eq_of_length (Nat.le_antisymm hq.length_le hbelow.length_le))

/-! ## Names in a directory -/

theorem locate_concat {front : List String} (hfront : d.locate front = .ok place)
    (hzero : hasZero name = false) : d.locate (front ++ [name]) = d.follow place name := by
  unfold locate at hfront ⊢
  split at hfront
  · cases hfront
  · next hfrontZero =>
    rw [List.any_append, if_neg (by simpa [hzero] using hfrontZero), List.foldlM_append, hfront]
    exact bind_pure (d.follow place name)

theorem follow_name (hdirectory : d.isDirectory place = true)
    (hnamed : name ≠ "" ∧ name ≠ "." ∧ name ≠ "..") (hshort : name.utf8ByteSize ≤ maxName) :
    d.follow place name = if (d.entry? (place ++ [name])).isSome then .ok (place ++ [name])
      else .error .missing := by
  unfold follow
  rw [if_neg (by simpa using hdirectory), if_neg (not_or.mpr ⟨hnamed.1, hnamed.2.1⟩),
    if_neg hnamed.2.2, if_neg (Nat.not_lt.mpr hshort)]
  cases d.entry? (place ++ [name]) <;> rfl

theorem locateDirectory_eq_ok_iff :
    d.locateDirectory parts = .ok place ↔ d.locate parts = .ok place ∧ d.isDirectory place = true := by
  cases hlocate : d.locate parts with
  | error fault => simp [locateDirectory, hlocate, bind, Except.bind]
  | ok q =>
    simp only [locateDirectory, hlocate, bind, Except.bind, Except.ok.injEq]
    constructor
    · intro h
      split_ifs at h with hdirectory
      obtain rfl := Except.ok.inj h
      exact ⟨rfl, hdirectory⟩
    · rintro ⟨rfl, hdirectory⟩
      rw [if_pos hdirectory]
      rfl

/-! ## Writing -/

/-- A text is written under a name, into a directory. -/
theorem exists_of_writeText {t : String} {d' : Disk} (h : d.writeText parts t = .ok d') :
    ∃ front place name, parts = front ++ [name] ∧ d.locateDirectory front = .ok place ∧
      (name ≠ "" ∧ name ≠ "." ∧ name ≠ "..") ∧ name.utf8ByteSize ≤ maxName ∧ hasZero name = false := by
  unfold writeText at h
  rw [List.span_eq_takeWhile_dropWhile] at h
  have hparts := List.takeWhile_append_dropWhile (p := (· == "")) (l := parts.reverse)
  simp only at h
  split at h
  · cases h
  · next name front hback =>
    cases hlocate : d.locateDirectory front.reverse with
    | error fault =>
      rw [hlocate] at h
      split_ifs at h <;> cases h
    | ok place =>
      rw [hlocate] at h
      simp only [bind, Except.bind, throw, throwThe, MonadExceptOf.throw] at h
      split_ifs at h with hzero hends hlong
      have hname : name ≠ "" := by
        have hhead := List.head?_dropWhile_not (· == "") parts.reverse
        rw [hback] at hhead
        simpa using hhead
      rw [not_or, not_or, Decidable.not_not, List.isEmpty_iff] at hends
      refine ⟨front.reverse, place, name, ?_, hlocate, ⟨hname, hends.2⟩, by omega, by simpa using hzero⟩
      rw [hends.1, hback, List.nil_append] at hparts
      rw [← List.reverse_reverse parts, ← hparts, List.reverse_cons]

/-! ## Vacant places -/

/-- Where a file with some name can be put into a directory. -/
structure Vacant (d : Disk) (parts : List String) (place : Place) (name : String) : Prop where
  located : ∃ front, parts = front ++ [name] ∧ d.locate front = .ok place
  directory : d.isDirectory place = true
  named : name ≠ "" ∧ name ≠ "." ∧ name ≠ ".."
  short : name.utf8ByteSize ≤ maxName
  noZero : hasZero name = false
  free : d.entry? (place ++ [name]) = none

namespace Vacant

variable (h : d.Vacant parts place name) (e : Entry)

include h

theorem entries_put :
    (d.put (place ++ [name]) e).entries = d.entries ++ [(place ++ [name], e)] := by
  refine putAt_of_forall_ne (fun x hx heq => ?_) e
  exact entry?_eq_none_iff.mp h.free x hx (heq ▸ List.prefix_rfl)

theorem entry?_put : entry? (d.put (place ++ [name]) e) (place ++ [name]) = some e := by
  have hnone := entry?_eq_none_iff.mp h.free
  have hlookup : d.entries.lookup (place ++ [name]) = none := by
    rw [← entry?_eq_lookup fun x hx hprefix => absurd hprefix (hnone x hx), h.free]
  rw [entry?_eq_lookup, h.entries_put, List.lookup_append, hlookup]
  · simp
  · intro x hx hprefix
    rw [h.entries_put, List.mem_append, List.mem_singleton] at hx
    obtain hx | rfl := hx
    · exact absurd hprefix (hnone x hx)
    · rfl

/-- Nothing else is changed by a new file: the places above it have been directories before. -/
theorem entry?_put_of_ne {q : Place} (hq : q ≠ place ++ [name]) :
    entry? (d.put (place ++ [name]) e) q = d.entry? q := by
  by_cases habove : q <+: place ++ [name]
  · have hplace : q <+: place := (List.prefix_concat_iff.mp habove).resolve_left hq
    rw [entry?_above h.directory hplace]
    refine entry?_of_below (x := (place ++ [name], e)) ?_ habove hq.symm
    rw [h.entries_put]
    exact List.mem_append_right _ List.mem_cons_self
  · have hlast : ([(place ++ [name], e)] : List (Place × Entry)).lookup q = none := by
      simpa [List.lookup_eq_none_iff] using hq
    have habove : q.isPrefixOf (place ++ [name]) = false := by
      simpa [← List.isPrefixOf_iff_prefix] using habove
    simp only [ entry?, h.entries_put, List.any_append, List.any_cons, List.any_nil, habove,
      Bool.false_and, Bool.or_false, List.lookup_append, hlast, Option.or_none]

theorem isDirectory_put {t : String} (q : Place) :
    (d.put (place ++ [name]) (.text t)).isDirectory q = d.isDirectory q := by
  by_cases hq : q = place ++ [name]
  · subst hq
    simp only [isDirectory, h.entry?_put, h.free]
  · simp only [isDirectory, h.entry?_put_of_ne _ hq]

theorem follow_put {t : String} {q q' : Place} {part : String} (hfollow : d.follow q part = .ok q') :
    (d.put (place ++ [name]) (.text t)).follow q part = .ok q' := by
  have hentry : d.entry? (q ++ [part]) ≠ none →
      entry? (d.put (place ++ [name]) (.text t)) (q ++ [part]) = d.entry? (q ++ [part]) := by
    intro hsome
    refine h.entry?_put_of_ne _ fun heq => hsome ?_
    rw [heq, h.free]
  unfold follow at hfollow ⊢
  rw [h.isDirectory_put]
  split_ifs at hfollow ⊢
  · exact hfollow
  · exact hfollow
  · cases hq : d.entry? (q ++ [part]) with
    | none => simp [hq] at hfollow
    | some e =>
      rw [hentry (by simp [hq]), hq]
      simpa [hq] using hfollow

theorem foldlM_follow_put {t : String} {ps : List String} {start q : Place}
    (hstart : ps.foldlM d.follow start = .ok q) :
    ps.foldlM (d.put (place ++ [name]) (.text t)).follow start = .ok q := by
  induction ps generalizing start with
  | nil => exact hstart
  | cons p ps ih =>
    rw [List.foldlM_cons] at hstart ⊢
    cases hp : d.follow start p with
    | error fault =>
      rw [hp] at hstart
      cases hstart
    | ok next =>
      rw [hp] at hstart
      rw [h.follow_put hp]
      exact ih hstart

/-- What led somewhere still leads there. -/
theorem locate_put {t : String} {ps : List String} {q : Place} (hlocate : d.locate ps = .ok q) :
    (d.put (place ++ [name]) (.text t)).locate ps = .ok q := by
  unfold locate at hlocate ⊢
  split at hlocate
  · cases hlocate
  · next hzero =>
    rw [if_neg hzero]
    exact h.foldlM_follow_put hlocate

/-- The path of a new file leads to it. -/
theorem locate_parts_put {t : String} :
    (d.put (place ++ [name]) (.text t)).locate parts = .ok (place ++ [name]) := by
  obtain ⟨front, rfl, hfront⟩ := h.located
  have hdirectory := (h.isDirectory_put (t := t) place).trans h.directory
  rw [locate_concat (h.locate_put hfront) h.noZero, follow_name hdirectory h.named h.short,
    h.entry?_put]
  rfl

theorem leads_put {t : String} : (d.put (place ++ [name]) (.text t)).leads parts = true := by
  rw [leads, h.locate_parts_put]

/-- A new file holds what was written. -/
theorem readText_put {t : String} : (d.put (place ++ [name]) (.text t)).readText parts = .ok t := by
  simp only [readText, h.locate_parts_put, h.entry?_put, bind, Except.bind]
  rfl

end Vacant

/-- A new file can be written. -/
theorem Vacant.writeText (h : d.Vacant parts place name) (t : String) :
    d.writeText parts t = .ok (d.put (place ++ [name]) (.text t)) := by
  obtain ⟨front, rfl, hfront⟩ := h.located
  have hspan : (front ++ [name]).reverse.span (· == "") = ([], name :: front.reverse) := by
    have hname : (name == "") = false := by simpa using h.named.1
    simp [List.span_eq_takeWhile_dropWhile, hname]
  have hlocate : d.locateDirectory front.reverse.reverse = .ok place := by
    rw [List.reverse_reverse]
    exact locateDirectory_eq_ok_iff.mpr ⟨hfront, h.directory⟩
  unfold Disk.writeText
  rw [hspan]
  simp only [h.noZero]
  rw [hlocate]
  simp [h.named, h.free, Nat.not_lt.mpr h.short, bind, Except.bind]
  rfl

/-- Where there is nothing, a text that can be written makes a new file. -/
theorem vacant_of_writeText {t : String} {d' : Disk} (hleads : d.leads parts = false)
    (hwrite : d.writeText parts t = .ok d') : ∃ place name, d.Vacant parts place name := by
  obtain ⟨front, place, name, rfl, hfront, hnamed, hshort, hzero⟩ := exists_of_writeText hwrite
  obtain ⟨hfront, hdirectory⟩ := locateDirectory_eq_ok_iff.mp hfront
  refine ⟨place, name, ⟨front, rfl, hfront⟩, hdirectory, hnamed, hshort, hzero, ?_⟩
  rw [leads, locate_concat hfront hzero, follow_name hdirectory hnamed hshort] at hleads
  cases hfree : d.entry? (place ++ [name]) with
  | none => rfl
  | some e =>
    rw [hfree] at hleads
    cases hleads

end Disk

/-- A file in which there was nothing holds the text that is written to it, whatever the text. -/
theorem exists_writeText {s : Surroundings} {d : Disk} {path : String}
    (hfresh : s.finds d path = false) (hplace : ∃ d', s.writeText d path "" = .ok d') (text : String) :
    ∃ d', s.writeText d path text = .ok d' ∧ s.finds d' path = true ∧ s.readText d' path = .ok text := by
  obtain ⟨d₀, hplace⟩ := hplace
  unfold Surroundings.writeText Surroundings.finds Surroundings.readText at *
  cases hparts : s.partsOf path with
  | error fault =>
    rw [hparts] at hplace
    cases hplace
  | ok parts =>
    rw [hparts] at hfresh hplace
    obtain ⟨place, name, hvacant⟩ := Disk.vacant_of_writeText hfresh hplace
    exact ⟨_, hvacant.writeText text, hvacant.leads_put, hvacant.readText_put⟩

end ContextIndex.Command
