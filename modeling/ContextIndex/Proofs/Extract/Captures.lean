import ContextIndex.Extract.Rules

/-!
# What a match captures

A match of a pattern lies in the text, and the name that it marks lies in the match.  Every rule
marks one name in a fixed place between patterns that mark none (`Pattern.marksWord`), and that name
is a word, so it holds no line feed.

A column holds for every place of the text the match that a pattern has there.  What the pattern and
the one behind it have to do with each other is said of two places: an entry of the one column comes
from an entry of the other one, further on (`column_plain`, `column_marksWord`).
-/

namespace ContextIndex

namespace Pattern

/-! ## Patterns that mark a name -/

/-- Whether a pattern marks no name. -/
def plain : Pattern → Bool
  | empty | one _ | many _ | few _ | edge | lineStart => true
  | nameStart | nameStop => false
  | seq p q | orElse p q => p.plain && q.plain

/-- Whether a pattern marks one name, which is a word, and nothing around it does. -/
def marksWord : Pattern → Bool
  | seq nameStart (seq (seq (one .word) (many .word)) (seq nameStop empty)) => true
  | seq p q => p.marksWord && q.plain || p.plain && q.marksWord
  | _ => false

/-! ## Places -/

theorem getElem?_placesFrom {offset : Nat} {before : Option Char} {cs : List Char} {i : Nat}
    {x : Place} (h : (placesFrom offset before cs)[i]? = .some x) :
    x.offset = offset + i ∧ x.after = cs[i]? ∧ i ≤ cs.length := by
  induction cs generalizing offset before i with
  | nil =>
    cases i with
    | zero =>
      cases h
      simp
    | succ i => simp [placesFrom] at h
  | cons c cs ih =>
    cases i with
    | zero =>
      cases h
      simp
    | succ i =>
      obtain ⟨hoffset, hafter, hle⟩ := ih h
      exact ⟨by omega, hafter, Nat.succ_le_succ hle⟩

theorem getElem?_places {text : List Char} {i : Nat} {x : Place} (h : (places text)[i]? = .some x) :
    x.offset = i ∧ x.after = text[i]? ∧ i ≤ text.length := by
  simpa using getElem?_placesFrom h

/-- From one place to another there are characters of a class only. -/
def Run (text : List Char) (c : CharClass) (i j : Nat) : Prop :=
  ∀ t, i ≤ t → t < j → ∃ ch, text[t]? = .some ch ∧ c.holds ch = true

/-! ## Columns -/

section Columns

variable {text : List Char} {choose : Option Reach → Option Reach → Option Reach}

/-- A choice between two entries gives one of them. -/
def Chooses (choose : Option Reach → Option Reach → Option Reach) : Prop :=
  ∀ next own r, choose next own = .some r → next = .some r ∨ own = .some r

theorem chooses_greedy : Chooses fun next own => next.or own :=
  fun _ _ _ h => (Option.or_eq_some_iff.mp h).imp id And.right

theorem chooses_reluctant : Chooses fun next own => own.or next :=
  fun _ _ _ h => (Option.or_eq_some_iff.mp h).symm.imp And.right id

/-- An entry of a repetition is that of what follows, or the entry of the next place. -/
theorem repeatEntry_cases (hchoose : Chooses choose) (c : CharClass) (x : Place × Option Reach)
    (later : Column) :
    ∃ e, repeatEntry choose c x later = e :: later ∧ ∀ r, e = .some r →
      x.2 = .some r ∨ x.1.after.any c.holds = true ∧ later[0]? = .some (.some r) := by
  unfold repeatEntry
  split
  · next ch next rest hafter =>
    refine ⟨_, rfl, fun r hr => ?_⟩
    by_cases hholds : c.holds ch = true
    · rw [if_pos hholds] at hr
      obtain hnext | hown := hchoose _ _ _ hr
      · exact .inr ⟨by simp [hafter, hholds], by simp [hnext]⟩
      · exact .inl hown
    · rw [if_neg hholds] at hr
      exact .inl hr
  · exact ⟨_, rfl, fun r hr => .inl hr⟩

theorem getElem?_foldr_repeatEntry (hchoose : Chooses choose) {c : CharClass}
    {xs : List (Place × Option Reach)} {i : Nat} {r : Reach}
    (h : (xs.foldr (repeatEntry choose c) [])[i]? = .some (.some r)) :
    ∃ j x, i ≤ j ∧ xs[j]? = .some (x, .some r) ∧ ∀ t, i ≤ t → t < j →
      ∃ y, xs[t]? = .some y ∧ y.1.after.any c.holds = true := by
  induction xs generalizing i with
  | nil => cases h
  | cons x xs ih =>
    obtain ⟨e, hentry, hcases⟩ :=
      repeatEntry_cases hchoose c x (xs.foldr (repeatEntry choose c) [])
    rw [List.foldr_cons, hentry] at h
    cases i with
    | succ i =>
      obtain ⟨j, y, hle, hy, hrun⟩ := ih h
      refine ⟨j + 1, y, Nat.succ_le_succ hle, hy, fun t hit htj => ?_⟩
      cases t with
      | zero => omega
      | succ t => exact hrun t (Nat.le_of_succ_le_succ hit) (Nat.lt_of_succ_lt_succ htj)
    | zero =>
      obtain hown | ⟨hafter, hnext⟩ := hcases r (Option.some.inj h)
      · exact ⟨0, x.1, Nat.le_refl 0, by simp [← hown], fun t _ ht => absurd ht (Nat.not_lt_zero t)⟩
      · obtain ⟨j, y, -, hy, hrun⟩ := ih hnext
        refine ⟨j + 1, y, Nat.zero_le _, hy, fun t _ htj => ?_⟩
        cases t with
        | zero => exact ⟨x, rfl, hafter⟩
        | succ t => exact hrun t (Nat.zero_le t) (Nat.lt_of_succ_lt_succ htj)

/-- A repetition goes on to a place behind characters of its class. -/
theorem column_repeated (hchoose : Chooses choose) {c : CharClass} {k : Column} {i : Nat} {r : Reach}
    (h : (((places text).zip k).foldr (repeatEntry choose c) [])[i]? = .some (.some r)) :
    ∃ j, i ≤ j ∧ k[j]? = .some (.some r) ∧ Run text c i j := by
  obtain ⟨j, x, hle, hx, hrun⟩ := getElem?_foldr_repeatEntry hchoose h
  refine ⟨j, hle, (List.getElem?_zip_eq_some.mp hx).2, fun t hit htj => ?_⟩
  obtain ⟨y, hy, hafter⟩ := hrun t hit htj
  rw [(getElem?_places (List.getElem?_zip_eq_some.mp hy).1).2.1] at hafter
  exact (Option.any_eq_true _ _).mp hafter

/-- A single character goes on to the next place. -/
theorem column_one {c : CharClass} {k : Column} {i : Nat} {r : Reach}
    (h : (column (places text) (one c) k)[i]? = .some (.some r)) :
    k[i + 1]? = .some (.some r) ∧ Run text c i (i + 1) := by
  obtain ⟨x, entry, hx, hentry, hboth⟩ := List.getElem?_zipWith_eq_some.mp h
  by_cases hafter : x.after.any c.holds = true
  · rw [if_pos hafter] at hboth
    subst hboth
    refine ⟨?_, fun t hit htj => ?_⟩
    · rw [List.getElem?_append] at hentry
      split at hentry
      · rwa [List.getElem?_tail] at hentry
      · rw [List.getElem?_singleton] at hentry
        split at hentry <;> cases hentry
    · obtain rfl : t = i := by omega
      rw [(getElem?_places hx).2.1] at hafter
      exact (Option.any_eq_true _ _).mp hafter
  · rw [if_neg hafter] at hboth
    cases hboth

/-- Where a condition on the place does not hold, there is no match. -/
theorem column_guarded {ps : List Place} {P : Place → Bool} {k : Column} {i : Nat} {r : Reach}
    (h : (List.zipWith (fun p r => if P p = true then r else none) ps k)[i]? = .some (.some r)) :
    k[i]? = .some (.some r) := by
  obtain ⟨x, entry, -, hentry, hboth⟩ := List.getElem?_zipWith_eq_some.mp h
  split at hboth
  · exact hboth ▸ hentry
  · cases hboth

/-- A pattern that marks no name goes on to a place further on. -/
theorem column_plain {p : Pattern} (hp : p.plain = true) {k : Column} {i : Nat} {r : Reach}
    (h : (column (places text) p k)[i]? = .some (.some r)) :
    ∃ j, i ≤ j ∧ k[j]? = .some (.some r) := by
  induction p generalizing k i with
  | empty => exact ⟨i, Nat.le_refl i, h⟩
  | one c => exact ⟨i + 1, Nat.le_succ i, (column_one h).1⟩
  | many c =>
    obtain ⟨j, hle, hj, -⟩ := column_repeated chooses_greedy h
    exact ⟨j, hle, hj⟩
  | few c =>
    obtain ⟨j, hle, hj, -⟩ := column_repeated chooses_reluctant h
    exact ⟨j, hle, hj⟩
  | edge => exact ⟨i, Nat.le_refl i, column_guarded h⟩
  | lineStart => exact ⟨i, Nat.le_refl i, column_guarded h⟩
  | nameStart | nameStop => cases hp
  | seq p q ihp ihq =>
    obtain ⟨hp, hq⟩ := Bool.and_eq_true_iff.mp hp
    obtain ⟨m, him, hm⟩ := ihp hp h
    obtain ⟨j, hmj, hj⟩ := ihq hq hm
    exact ⟨j, Nat.le_trans him hmj, hj⟩
  | orElse p q ihp ihq =>
    obtain ⟨hp, hq⟩ := Bool.and_eq_true_iff.mp hp
    obtain ⟨a, b, ha, hb, hor⟩ := List.getElem?_zipWith_eq_some.mp h
    obtain rfl | ⟨-, rfl⟩ := Option.or_eq_some_iff.mp hor
    · exact ihp hp ha
    · exact ihq hq hb

/-- A name goes on to the place behind it, and marks the two places. -/
theorem column_name {k : Column} {i : Nat} {r : Reach}
    (h : (column (places text) Extract.name k)[i]? = .some (.some r)) :
    ∃ j s, i < j ∧ k[j]? = .some (.some s) ∧ Run text .word i j ∧
      r = { s with nameStart := i, nameStop := j } := by
  obtain ⟨x, started, hx, hstarted, hr⟩ := List.getElem?_zipWith_eq_some.mp h
  obtain ⟨named, rfl, rfl⟩ := Option.map_eq_some_iff.mp hr
  obtain ⟨hnext, hfirst⟩ := column_one hstarted
  obtain ⟨j, hle, hstopped, hrest⟩ := column_repeated chooses_greedy hnext
  obtain ⟨y, entry, hy, hentry, hnamed⟩ := List.getElem?_zipWith_eq_some.mp hstopped
  obtain ⟨s, rfl, rfl⟩ := Option.map_eq_some_iff.mp hnamed
  refine ⟨j, s, hle, hentry, fun t hit htj => ?_, ?_⟩
  · by_cases ht : t < i + 1
    · exact hfirst t hit ht
    · exact hrest t (Nat.le_of_not_lt ht) htj
  · rw [(getElem?_places hx).1, (getElem?_places hy).1]

/-- A pattern that marks a word goes on to a place behind it, and marks the ends of the word. -/
theorem column_marksWord {p : Pattern} (hp : p.marksWord = true) {k : Column} {i : Nat} {r : Reach}
    (h : (column (places text) p k)[i]? = .some (.some r)) :
    ∃ a b j s, i ≤ a ∧ a < b ∧ b ≤ j ∧ k[j]? = .some (.some s) ∧ Run text .word a b ∧
      r = { s with nameStart := a, nameStop := b } := by
  fun_induction marksWord p generalizing k i r with
  | case1 =>
    obtain ⟨j, s, hlt, hs, hword, hr⟩ := column_name h
    exact ⟨i, j, j, s, Nat.le_refl i, hlt, Nat.le_refl j, hs, hword, hr⟩
  | case2 p q _ ihp ihq =>
    rw [Bool.or_eq_true, Bool.and_eq_true, Bool.and_eq_true] at hp
    obtain ⟨hp, hq⟩ | ⟨hp, hq⟩ := hp
    · obtain ⟨a, b, m, s, hia, hab, hbm, hs, hword, hr⟩ := ihp hp h
      obtain ⟨j, hmj, hj⟩ := column_plain hq hs
      exact ⟨a, b, j, s, hia, hab, Nat.le_trans hbm hmj, hj, hword, hr⟩
    · obtain ⟨m, him, hm⟩ := column_plain hp h
      obtain ⟨a, b, j, s, hma, hab, hbj, hs, hword, hr⟩ := ihq hq hm
      exact ⟨a, b, j, s, Nat.le_trans him hma, hab, hbj, hs, hword, hr⟩
  | case3 => cases hp

end Columns

/-! ## Matches -/

/-- A match is an entry of the column. -/
theorem mem_scan {offset resume : Nat} {k : Column} {m : Match} (h : m ∈ scan offset resume k) :
    ∃ i, k[i]? = .some (.some m.reach) ∧ m.start = offset + i := by
  induction k generalizing offset resume with
  | nil => cases h
  | cons entry k ih =>
    have later {resume : Nat} (h : m ∈ scan (offset + 1) resume k) :
        ∃ i, (entry :: k)[i]? = .some (.some m.reach) ∧ m.start = offset + i := by
      obtain ⟨i, hi, hstart⟩ := ih h
      exact ⟨i + 1, hi, by omega⟩
    cases entry with
    | none => exact later h
    | some r =>
      rw [scan] at h
      split at h
      · exact later h
      · obtain rfl | h := List.mem_cons.mp h
        · exact ⟨0, rfl, rfl⟩
        · exact later h

/-- A match lies in the text, and the name in it is a word that lies in the match. -/
structure Captures (text : List Char) (m : Match) : Prop where
  start_le : m.start ≤ m.reach.nameStart
  name_lt : m.reach.nameStart < m.reach.nameStop
  name_le : m.reach.nameStop ≤ m.reach.stop
  stop_le : m.reach.stop ≤ text.length
  word : Run text .word m.reach.nameStart m.reach.nameStop

theorem captures_of_mem {p : Pattern} (hp : p.marksWord = true) {text : List Char} {m : Match}
    (h : m ∈ p.matches text) : Captures text m := by
  obtain ⟨i, hi, hstart⟩ := mem_scan h
  obtain ⟨a, b, j, s, hia, hab, hbj, hs, hword, hr⟩ := column_marksWord hp hi
  rw [endColumn, List.getElem?_map, Option.map_eq_some_iff] at hs
  obtain ⟨x, hx, hend⟩ := hs
  obtain ⟨hoffset, -, hle⟩ := getElem?_places hx
  cases hend
  constructor <;> rw [hr]
  · show m.start ≤ a
    omega
  · exact hab
  · show b ≤ x.offset
    omega
  · show x.offset ≤ text.length
    omega
  · exact hword

/-- The name of a match has no line feed. -/
theorem Captures.newline_not_mem {text : List Char} {m : Match} (h : Captures text m) :
    '\n' ∉ (text.drop m.reach.nameStart).take (m.reach.nameStop - m.reach.nameStart) := by
  intro hmem
  obtain ⟨t, ht⟩ := List.mem_iff_getElem?.mp hmem
  rw [List.getElem?_take] at ht
  split at ht
  · rw [List.getElem?_drop] at ht
    obtain ⟨ch, hch, hword⟩ := h.word (m.reach.nameStart + t) (Nat.le_add_right _ t) (by omega)
    rw [ht] at hch
    cases hch
    exact absurd hword (by simp [CharClass.holds, Text.isWordChar_newline])
  · cases ht

end Pattern

namespace Extract

/-- Every rule marks a word as the name. -/
theorem marksWord_of_mem_rules {language : String} {table : RuleTable}
    (htable : tableFor? language = some table) {rule : Rule} (hrule : rule ∈ table.rules) :
    rule.head.marksWord = true := by
  have hall : ∀ rule ∈ (codeTable language).rules, rule.head.marksWord = true := by
    unfold codeTable
    split <;> decide +kernel
  rw [tableFor?] at htable
  split at htable
  · cases htable
    exact hall rule hrule
  · cases htable

end Extract

end ContextIndex
