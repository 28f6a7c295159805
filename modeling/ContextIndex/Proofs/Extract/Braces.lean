import ContextIndex.Extract.Block
import Mathlib.Order.Bounds.Basic

/-!
# Braces that balance

The scan for the end of a block reads one character after the other and keeps a state.  What it finds
can be said without one.  A semicolon ends the declaration if no brace comes before it and no bracket
is open (`EndsBodiless`).  Otherwise the block ends where from the first brace on as many braces have
been closed as opened (`Balances`).

`Reached` says what each state knows of the text before it, and `Reached.step` that a character keeps
it so.  `braceBlockEnd_balances` is the whole scan, over lines of any length: where it ends, that the
end lies in the file, and that nothing behind a balancing brace matters.
-/

namespace ContextIndex.Extract

/-! ## Counting brackets and braces -/

/-- How many brackets are open after one more character.  A closer that closes nothing counts for
nothing. -/
def bracket (n : Nat) (c : Char) : Nat :=
  if c = '(' ∨ c = '[' then n + 1 else if c = ')' ∨ c = ']' then n - 1 else n

/-- How many round and square brackets are open after a text. -/
def nesting (cs : List Char) : Nat :=
  cs.foldl bracket 0

@[simp] theorem nesting_concat (cs : List Char) (c : Char) :
    nesting (cs ++ [c]) = bracket (nesting cs) c := by
  simp [nesting]

/-- At this position a semicolon ends a declaration that has no body. -/
structure EndsBodiless (cs : List Char) (i : Nat) : Prop where
  semicolon : cs[i]? = some ';'
  braceless : '\x7b' ∉ cs.take i
  outside : nesting (cs.take i) = 0

/-- From one position to another, both included, as many braces are closed as opened. -/
structure Balances (cs : List Char) (i j : Nat) : Prop where
  later : i < j
  inside : j < cs.length
  equal : ((cs.drop i).take (j + 1 - i)).count '\x7d' = ((cs.drop i).take (j + 1 - i)).count '\x7b'

theorem endsBodiless_append {front : List Char} (back : List Char) {i : Nat}
    (hi : i < front.length) : EndsBodiless (front ++ back) i ↔ EndsBodiless front i := by
  have htake : (front ++ back).take i = front.take i :=
    List.take_append_of_le_length (Nat.le_of_lt hi)
  have hget : (front ++ back)[i]? = front[i]? := List.getElem?_append_left hi
  constructor
  · rintro ⟨hsemicolon, hbraceless, houtside⟩
    exact ⟨hget ▸ hsemicolon, htake ▸ hbraceless, htake ▸ houtside⟩
  · rintro ⟨hsemicolon, hbraceless, houtside⟩
    exact ⟨hget ▸ hsemicolon, htake ▸ hbraceless, htake ▸ houtside⟩

/-- Behind an opening brace no semicolon ends a declaration. -/
theorem not_endsBodiless_of_brace {front : List Char} (h : ∀ i, ¬EndsBodiless front i)
    (back : List Char) : ∀ i, ¬EndsBodiless (front ++ '\x7b' :: back) i := by
  intro i hi
  obtain hlt | heq | hgt := Nat.lt_trichotomy i front.length
  · exact h i ((endsBodiless_append _ hlt).mp hi)
  · have hsemicolon := hi.semicolon
    simp [heq] at hsemicolon
  · refine hi.braceless ?_
    rw [List.take_append, List.mem_append]
    obtain ⟨k, hk⟩ := Nat.exists_eq_succ_of_ne_zero (Nat.sub_ne_zero_of_lt hgt)
    simp [hk]

theorem not_endsBodiless_concat {cs : List Char} (h : ∀ i, ¬EndsBodiless cs i) {c : Char}
    (hc : ¬(c = ';' ∧ nesting cs = 0)) : ∀ i, ¬EndsBodiless (cs ++ [c]) i := by
  intro i hi
  obtain hlt | heq | hgt := Nat.lt_trichotomy i cs.length
  · exact h i ((endsBodiless_append _ hlt).mp hi)
  · obtain ⟨hsemicolon, -, houtside⟩ := hi
    simp only [heq, List.getElem?_concat_length, Option.some.injEq, List.take_left] at *
    exact hc ⟨hsemicolon, houtside⟩
  · have hsemicolon := hi.semicolon
    rw [List.getElem?_eq_none (by simp; omega)] at hsemicolon
    cases hsemicolon

theorem isLeast_endsBodiless {front : List Char} (hbrace : '\x7b' ∉ front)
    (h : ∀ i, ¬EndsBodiless front i) (houtside : nesting front = 0) (back : List Char) :
    IsLeast {i | EndsBodiless (front ++ ';' :: back) i} front.length := by
  refine ⟨⟨by simp, by simpa using hbrace, by simpa using houtside⟩, fun i hi => ?_⟩
  by_contra hlt
  exact h i ((endsBodiless_append _ (Nat.not_le.mp hlt)).mp hi)

theorem isLeast_of_not_mem {front : List Char} {c : Char} (h : c ∉ front) (back : List Char) :
    IsLeast {i | (front ++ c :: back)[i]? = some c} front.length := by
  refine ⟨by simp, fun i hi => ?_⟩
  by_contra hlt
  have hget : (front ++ c :: back)[i]? = some c := hi
  rw [List.getElem?_append_left (Nat.not_le.mp hlt)] at hget
  exact h (List.mem_of_getElem? hget)

/-- However far it is read, more braces are opened in a text than closed. -/
def StaysOpen (cs : List Char) : Prop :=
  ∀ p, p <+: cs → p ≠ [] → p.count '\x7d' < p.count '\x7b'

theorem StaysOpen.concat {cs : List Char} (h : StaysOpen cs) {c : Char}
    (hc : (cs ++ [c]).count '\x7d' < (cs ++ [c]).count '\x7b') : StaysOpen (cs ++ [c]) := by
  intro p hp hne
  obtain rfl | hp := List.prefix_concat_iff.mp hp
  · exact hc
  · exact h p hp hne

/-- In a text that stays open nothing balances before its end. -/
theorem StaysOpen.not_balances {body : List Char} (h : StaysOpen body) (front back : List Char)
    {j : Nat} (hj : j < front.length + body.length) :
    ¬Balances (front ++ (body ++ back)) front.length j := by
  rintro ⟨hlater, -, hequal⟩
  rw [List.drop_left, List.take_append_of_le_length (by omega)] at hequal
  have hne : body.take (j + 1 - front.length) ≠ [] := by
    intro hnil
    have hlength := congrArg List.length hnil
    simp only [List.length_take, List.length_nil] at hlength
    omega
  exact absurd hequal (Nat.ne_of_lt (h _ (List.take_prefix _ _) hne))

/-- A text that stays open and has one brace open balances with one that closes. -/
theorem StaysOpen.isLeast_balances {body : List Char} (h : StaysOpen body)
    (hone : body.count '\x7b' = body.count '\x7d' + 1) (front back : List Char) :
    IsLeast {j | Balances (front ++ (body ++ '\x7d' :: back)) front.length j}
      (front.length + body.length) := by
  have hpos : 0 < body.length := by
    cases body with
    | nil => simp at hone
    | cons c body => simp
  refine ⟨⟨by omega, by simp, ?_⟩, fun j hj => ?_⟩
  · rw [List.drop_left, List.append_cons, List.take_append_of_le_length (by simp; omega),
      List.take_of_length_le (by simp; omega)]
    simp [hone]
  · by_contra hlt
    exact h.not_balances front _ (Nat.not_le.mp hlt) hj

/-! ## What a state knows -/

theorem BraceScan.step_unseen (n : Nat) (c : Char) : (BraceScan.unseen n).step c =
    if c = '\x7b' then some (.inside 1)
    else if c = ';' ∧ n = 0 then none
    else some (.unseen (bracket n c)) := by
  by_cases hopen : c = '\x7b'
  · simp [step, hopen]
  · by_cases hsemicolon : c = ';'
    · by_cases hn : n = 0 <;> simp [step, bracket, hsemicolon, hn]
    · simp only [step, bracket, hopen, hsemicolon, false_and, if_false]
      split
      · rfl
      · split <;> rfl

theorem BraceScan.step_inside (n : Nat) (c : Char) : (BraceScan.inside n).step c =
    if c = '\x7d' ∧ n = 1 then none
    else some (.inside (n + [c].count '\x7b' - [c].count '\x7d')) := by
  by_cases hopen : c = '\x7b'
  · simp [step, hopen]
  · by_cases hclose : c = '\x7d'
    · by_cases hn : n = 1 <;> simp [step, hclose, hn]
    · simp [step, hopen, hclose]

/-- What a scan has read when it is in a state. -/
inductive Reached : List Char → BraceScan → Prop
  | unseen {cs : List Char} : '\x7b' ∉ cs → (∀ i, ¬EndsBodiless cs i) →
    Reached cs (.unseen (nesting cs))
  | inside {front back : List Char} {depth : Nat} : '\x7b' ∉ front → (∀ i, ¬EndsBodiless front i) →
    StaysOpen ('\x7b' :: back) →
    ('\x7b' :: back).count '\x7b' = ('\x7b' :: back).count '\x7d' + depth →
    Reached (front ++ '\x7b' :: back) (.inside depth)

theorem reached_nothing : Reached [] (.unseen 0) := by
  show Reached [] (.unseen (nesting []))
  refine .unseen (by simp) fun i hi => ?_
  have hsemicolon := hi.semicolon
  simp at hsemicolon

/-- Inside a block at least one brace is open. -/
theorem Reached.depth_pos {cs : List Char} {depth : Nat} (h : Reached cs (.inside depth)) :
    0 < depth := by
  cases h with
  | inside _ _ hopen hcount =>
    have := hopen _ (List.prefix_refl _) (List.cons_ne_nil _ _)
    omega

/-- A character that does not end the scan keeps what the states know. -/
theorem Reached.step {cs : List Char} {state next : BraceScan} {c : Char} (h : Reached cs state)
    (hstep : state.step c = some next) : Reached (cs ++ [c]) next := by
  cases h with
  | unseen hbrace hnone =>
    rw [BraceScan.step_unseen] at hstep
    by_cases hopen : c = '\x7b'
    · rw [if_pos hopen, Option.some.injEq] at hstep
      subst hopen hstep
      have hstays : StaysOpen ([] ++ ['\x7b']) := StaysOpen.concat (by simp [StaysOpen]) (by simp)
      exact .inside hbrace hnone hstays (by simp)
    · by_cases hends : c = ';' ∧ nesting cs = 0
      · simp [hends] at hstep
      · rw [if_neg hopen, if_neg hends, Option.some.injEq, ← nesting_concat] at hstep
        rw [← hstep]
        exact .unseen (by simp [hbrace, Ne.symm hopen]) (not_endsBodiless_concat hnone hends)
  | @inside front back depth hbrace hnone hopen hcount =>
    have hpos : 0 < depth := (Reached.inside hbrace hnone hopen hcount).depth_pos
    rw [BraceScan.step_inside] at hstep
    by_cases hcloses : c = '\x7d' ∧ depth = 1
    · simp [hcloses] at hstep
    · rw [if_neg hcloses, Option.some.injEq] at hstep
      have hfewer : [c].count '\x7d' < depth + [c].count '\x7b' := by
        by_cases hc : c = '\x7d'
        · have hmore : depth ≠ 1 := fun hone => hcloses ⟨hc, hone⟩
          simp only [hc, List.count_singleton_self]
          omega
        · simp [hc]
          omega
      rw [← hstep, List.append_assoc, List.cons_append]
      refine .inside hbrace hnone (hopen.concat ?_) ?_
      · simp only [List.count_append]
        omega
      · rw [← List.cons_append, List.count_append, List.count_append]
        omega

/-- What the states know after a whole text. -/
theorem Reached.run {cs : List Char} {state next : BraceScan} (h : Reached cs state)
    {more : List Char} (hrun : state.run more = some next) : Reached (cs ++ more) next := by
  induction more generalizing cs state with
  | nil =>
    obtain rfl : state = next := Option.some.inj hrun
    simpa using h
  | cons c more ih =>
    obtain ⟨middle, hstep, hrest⟩ := Option.bind_eq_some_iff.mp hrun
    simpa using ih (h.step hstep) hrest

/-! ## Characters with their lines -/

/-- The characters of lines, each with the number of its line, the first of which is given. -/
def numbered (line : Nat) : List (List Char) → List (Nat × Char)
  | [] => []
  | l :: ls => l.map (Prod.mk line) ++ numbered (line + 1) ls

theorem mem_numbered {line : Nat} {ls : List (List Char)} {x : Nat × Char}
    (h : x ∈ numbered line ls) : line ≤ x.1 ∧ x.1 < line + ls.length := by
  induction ls generalizing line with
  | nil => cases h
  | cons l ls ih =>
    rw [numbered, List.mem_append] at h
    rw [List.length_cons]
    obtain h | h := h
    · obtain ⟨c, -, rfl⟩ := List.mem_map.mp h
      dsimp only
      omega
    · have := ih h
      omega

/-- Where a scan is that has come to the end of the file. -/
def BraceScan.atEnd (start last : Nat) : BraceScan → Nat
  | .unseen _ => start
  | .inside _ => max last start

/-- The line on which a scan of numbered characters ends. -/
def scanNumbered (start last : Nat) : BraceScan → List (Nat × Char) → Nat
  | state, [] => state.atEnd start last
  | state, (line, c) :: w =>
    match state.step c with
    | none => line
    | some next => scanNumbered start last next w

section Scan

variable {start last : Nat}

theorem scanNumbered_line (line : Nat) (state : BraceScan) (l : List Char) (w : List (Nat × Char)) :
    scanNumbered start last state (l.map (Prod.mk line) ++ w) =
      match state.run l with
      | none => line
      | some next => scanNumbered start last next w := by
  induction l generalizing state with
  | nil => rfl
  | cons c l ih =>
    rw [List.map_cons, List.cons_append, scanNumbered, BraceScan.run, List.foldlM_cons]
    cases state.step c with
    | none => rfl
    | some next => exact ih next

/-- To scan line by line is to scan one character after the other. -/
theorem scanBraces_eq (line : Nat) (state : BraceScan) (ls : List (List Char)) :
    scanBraces start last line state ls = scanNumbered start last state (numbered line ls) := by
  induction ls generalizing line state with
  | nil => cases state <;> rfl
  | cons l ls ih =>
    rw [scanBraces, numbered, scanNumbered_line]
    cases state.run l with
    | none => rfl
    | some next => exact ih (line + 1) next

/-- What a scan of numbered characters has read when it ends, and where that is. -/
inductive Scanned (start last : Nat) : List (Nat × Char) → Nat → Prop
  | semicolon (before after : List (Nat × Char)) (line : Nat) :
    Reached (before.map Prod.snd) (.unseen 0) →
    Scanned start last (before ++ (line, ';') :: after) line
  | brace (before after : List (Nat × Char)) (line : Nat) :
    Reached (before.map Prod.snd) (.inside 1) →
    Scanned start last (before ++ (line, '\x7d') :: after) line
  | atEnd (w : List (Nat × Char)) (state : BraceScan) : Reached (w.map Prod.snd) state →
    Scanned start last w (state.atEnd start last)

theorem scanned_of_reached {before : List (Nat × Char)} {state : BraceScan}
    (h : Reached (before.map Prod.snd) state) (w : List (Nat × Char)) :
    Scanned start last (before ++ w) (scanNumbered start last state w) := by
  induction w generalizing before state with
  | nil =>
    rw [List.append_nil]
    exact .atEnd before state h
  | cons x w ih =>
    obtain ⟨line, c⟩ := x
    rw [scanNumbered]
    cases hstep : state.step c with
    | some next =>
      have hnext : Reached ((before ++ [(line, c)]).map Prod.snd) next := by
        simpa using h.step hstep
      simpa using ih hnext
    | none =>
      cases state with
      | unseen n =>
        rw [BraceScan.step_unseen] at hstep
        split at hstep
        · cases hstep
        · split at hstep
          · next hends =>
            obtain ⟨rfl, rfl⟩ := hends
            exact .semicolon before w line h
          · cases hstep
      | inside n =>
        rw [BraceScan.step_inside] at hstep
        split at hstep
        · next hends =>
          obtain ⟨rfl, rfl⟩ := hends
          exact .brace before w line h
        · cases hstep

end Scan

/-! ## Where a block ends -/

/-- Before a brace opens no semicolon ends the declaration, and this is that brace. -/
structure Opens (cs : List Char) (i : Nat) : Prop where
  body : ∀ k, ¬EndsBodiless cs k
  first : IsLeast {i | cs[i]? = some '\x7b'} i

/-- The line on which the block declared by a text ends, said of the text as a whole. -/
structure BlockEnd (start last : Nat) (w : List (Nat × Char)) (line : Nat) : Prop where
  /-- The line of the first semicolon that ends a declaration without a body. -/
  bodiless : ∀ i, IsLeast {i | EndsBodiless (w.map Prod.snd) i} i →
    w[i]?.map Prod.fst = some line
  /-- Else the line of the first brace at which the braces balance. -/
  balanced : ∀ i j, Opens (w.map Prod.snd) i → IsLeast {j | Balances (w.map Prod.snd) i j} j →
    w[j]?.map Prod.fst = some line
  /-- If they never do, the last line. -/
  unbalanced : ∀ i, Opens (w.map Prod.snd) i → (∀ j, ¬Balances (w.map Prod.snd) i j) → line = last
  /-- Without a brace, the first line. -/
  braceless : (∀ k, ¬EndsBodiless (w.map Prod.snd) k) → '\x7b' ∉ w.map Prod.snd → line = start
  first_le : start ≤ line
  le_last : line ≤ last

theorem Reached.of_unseen {cs : List Char} {n : Nat} (h : Reached cs (.unseen n)) :
    '\x7b' ∉ cs ∧ (∀ i, ¬EndsBodiless cs i) ∧ nesting cs = n := by
  generalize hstate : BraceScan.unseen n = state at h
  cases h with
  | unseen hbrace hnone => exact ⟨hbrace, hnone, (BraceScan.unseen.inj hstate).symm⟩
  | inside => cases hstate

theorem opens_of_brace {front : List Char} (hbrace : '\x7b' ∉ front)
    (hnone : ∀ i, ¬EndsBodiless front i) (back : List Char) :
    Opens (front ++ '\x7b' :: back) front.length :=
  ⟨not_endsBodiless_of_brace hnone back, isLeast_of_not_mem hbrace back⟩

theorem Opens.mem {cs : List Char} {i : Nat} (h : Opens cs i) : '\x7b' ∈ cs :=
  List.mem_of_getElem? h.first.1

theorem Opens.unique {cs : List Char} {i k : Nat} (hi : Opens cs i) (hk : Opens cs k) : i = k :=
  hi.first.unique hk.first

/-- With one brace open, a closing brace balances, whatever comes behind it. -/
theorem Reached.closes {before : List Char} (h : Reached before (.inside 1)) (after : List Char) :
    ∃ i, Opens (before ++ '\x7d' :: after) i ∧
      IsLeast {j | Balances (before ++ '\x7d' :: after) i j} before.length := by
  cases h with
  | @inside front back _ hbrace hnone hopen hcount =>
    have hopens := opens_of_brace hbrace hnone (back ++ '\x7d' :: after)
    have hleast := hopen.isLeast_balances hcount front after
    refine ⟨front.length, by simpa using hopens, ?_⟩
    rw [List.append_assoc, List.length_append]
    exact hleast

/-- While a brace is open nothing balances. -/
theorem Reached.never_balances {cs : List Char} {depth : Nat} (h : Reached cs (.inside depth)) :
    ∃ i, Opens cs i ∧ ∀ j, ¬Balances cs i j := by
  cases h with
  | @inside front back _ hbrace hnone hopen =>
    refine ⟨front.length, opens_of_brace hbrace hnone back, fun j hj => ?_⟩
    have hshort := hj.inside
    rw [List.length_append] at hshort
    exact hopen.not_balances front [] hshort (by simpa using hj)

theorem Scanned.blockEnd {start last line : Nat} {w : List (Nat × Char)}
    (h : Scanned start last w line) (hle : start ≤ last)
    (hlines : ∀ x ∈ w, start ≤ x.1 ∧ x.1 ≤ last) : BlockEnd start last w line := by
  cases h with
  | semicolon before after line h =>
    obtain ⟨hbrace, hnone, houtside⟩ := h.of_unseen
    obtain ⟨hfirst, hlast⟩ := hlines (line, ';') (by simp)
    have hleast : IsLeast {i | EndsBodiless ((before ++ (line, ';') :: after).map Prod.snd) i}
        before.length := by
      simpa using isLeast_endsBodiless hbrace hnone houtside (after.map Prod.snd)
    refine ⟨fun i hi => ?_, fun i _ hi => ?_, fun i hi => ?_, fun hi => ?_, hfirst, hlast⟩
    · rw [hi.unique hleast]
      simp
    · exact absurd hleast.1 (hi.body _)
    · exact absurd hleast.1 (hi.body _)
    · exact absurd hleast.1 (hi _)
  | brace before after line h =>
    obtain ⟨k, hopens, hleast⟩ := h.closes (after.map Prod.snd)
    obtain ⟨hfirst, hlast⟩ := hlines (line, '\x7d') (by simp)
    have htext : (before ++ (line, '\x7d') :: after).map Prod.snd =
      before.map Prod.snd ++ '\x7d' :: after.map Prod.snd := by simp
    rw [← htext] at hopens hleast
    refine ⟨fun i hi => ?_, fun i j hi hj => ?_, fun i hi hnever => ?_, fun _ hi => ?_, hfirst,
      hlast⟩
    · exact absurd hi.1 (hopens.body i)
    · rw [hi.unique hopens] at hj
      rw [hj.unique hleast]
      simp
    · rw [hi.unique hopens] at hnever
      exact absurd hleast.1 (hnever _)
    · exact absurd hopens.mem hi
  | atEnd _ state h =>
    cases state with
    | unseen n =>
      obtain ⟨hbrace, hnone, -⟩ := h.of_unseen
      exact ⟨fun i hi => absurd hi.1 (hnone i), fun i j hi => absurd hi.mem hbrace,
        fun i hi => absurd hi.mem hbrace, fun _ _ => rfl, Nat.le_refl start, hle⟩
    | inside n =>
      obtain ⟨k, hopens, hnever⟩ := h.never_balances
      have hlast : BraceScan.atEnd start last (.inside n) = last := Nat.max_eq_left hle
      rw [hlast]
      refine ⟨fun i hi => ?_, fun i j hi hj => ?_, fun _ _ _ => rfl, fun _ hi => ?_, hle,
        Nat.le_refl last⟩
      · exact absurd hi.1 (hopens.body i)
      · rw [hi.unique hopens] at hj
        exact absurd hj.1 (hnever j)
      · exact absurd hopens.mem hi

/-- If the braces balance somewhere, the scan ends there with a closing brace. -/
theorem Scanned.of_balances {start last line : Nat} {w : List (Nat × Char)}
    (h : Scanned start last w line) {i j : Nat} (hi : Opens (w.map Prod.snd) i)
    (hj : IsLeast {j | Balances (w.map Prod.snd) i j} j) :
    ∃ before after, w = before ++ (line, '\x7d') :: after ∧ before.length = j ∧
      Reached (before.map Prod.snd) (.inside 1) := by
  cases h with
  | semicolon before after line h =>
    obtain ⟨hbrace, hnone, houtside⟩ := h.of_unseen
    refine absurd (isLeast_endsBodiless hbrace hnone houtside (after.map Prod.snd)).1 ?_
    simpa using hi.body before.length
  | brace before after line h =>
    obtain ⟨k, hopens, hleast⟩ := h.closes (after.map Prod.snd)
    rw [List.map_append, List.map_cons] at hi hj
    rw [hi.unique hopens] at hj
    refine ⟨before, after, rfl, ?_, h⟩
    simpa using hleast.unique hj
  | atEnd _ state h =>
    cases state with
    | unseen n => exact absurd hi.mem h.of_unseen.1
    | inside n =>
      obtain ⟨k, hopens, hnever⟩ := h.never_balances
      rw [hi.unique hopens] at hj
      exact absurd hj.1 (hnever j)

/-- From a byte of a line on, the line goes on like this. -/
structure GoesOn (ls : List (List Char)) (line column : Nat) (rest : List Char) : Prop where
  first : 1 ≤ line
  dropBytes : (ls[line - 1]?).bind (Text.dropBytes column) = some rest

/-- The text that begins with the rest of a line, each character with the number of its line. -/
def textFrom (ls : List (List Char)) (line : Nat) (rest : List Char) : List (Nat × Char) :=
  numbered line (rest :: ls.drop line)

section BlockEnd

variable {ls : List (List Char)} {start column : Nat} {rest : List Char}

theorem GoesOn.line_le (h : GoesOn ls start column rest) : start ≤ ls.length := by
  obtain ⟨l, hl, -⟩ := Option.bind_eq_some_iff.mp h.dropBytes
  have hlt := (List.getElem?_eq_some_iff.mp hl).1
  have hfirst := h.first
  omega

theorem GoesOn.braceBlockEnd_eq (h : GoesOn ls start column rest) : braceBlockEnd ls start column =
    scanNumbered start ls.length (.unseen 0) (textFrom ls start rest) := by
  obtain ⟨l, hl, hrest⟩ := Option.bind_eq_some_iff.mp h.dropBytes
  have hdrop : ls.drop (start - 1) = l :: ls.drop start := by
    obtain ⟨hlt, rfl⟩ := List.getElem?_eq_some_iff.mp hl
    rw [List.drop_eq_getElem_cons hlt, Nat.sub_add_cancel h.first]
  simp only [braceBlockEnd, scanBraces_eq, linesFrom, hdrop, hrest, Option.getD_some, textFrom]

theorem GoesOn.scanned (h : GoesOn ls start column rest) :
    Scanned start ls.length (textFrom ls start rest) (braceBlockEnd ls start column) := by
  rw [h.braceBlockEnd_eq]
  have hnothing : Reached (([] : List (Nat × Char)).map Prod.snd) (.unseen 0) := reached_nothing
  exact scanned_of_reached hnothing _

theorem GoesOn.lines_of_mem (h : GoesOn ls start column rest) :
    ∀ x ∈ textFrom ls start rest, start ≤ x.1 ∧ x.1 ≤ ls.length := by
  intro x hx
  have hbounds := mem_numbered hx
  have hle := h.line_le
  rw [List.length_cons, List.length_drop] at hbounds
  omega

/-- The end of a block in braces, for lines of any number and length.  What is scanned is the text
from the place of the declaration on.  What comes behind a brace at which the braces balance makes no
difference: with any other lines after it, or none, the block ends there too. -/
theorem braceBlockEnd_balances (h : GoesOn ls start column rest) :
    BlockEnd start ls.length (textFrom ls start rest) (braceBlockEnd ls start column) ∧
      ∀ i j, Opens ((textFrom ls start rest).map Prod.snd) i →
        IsLeast {j | Balances ((textFrom ls start rest).map Prod.snd) i j} j →
        ∀ ls' column' rest', GoesOn ls' start column' rest' →
          (textFrom ls start rest).take (j + 1) <+: textFrom ls' start rest' →
          braceBlockEnd ls' start column' = braceBlockEnd ls start column := by
  refine ⟨h.scanned.blockEnd h.line_le h.lines_of_mem, ?_⟩
  intro i j hi hj ls' column' rest' h' hprefix
  obtain ⟨before, after, hsplit, hlength, hreached⟩ := h.scanned.of_balances hi hj
  obtain ⟨after', hsplit'⟩ := hprefix
  rw [hsplit, ← hlength, List.append_cons, List.take_left' (by simp), List.append_assoc,
    List.singleton_append] at hsplit'
  obtain ⟨k, hopens, hleast⟩ := hreached.closes (after'.map Prod.snd)
  have hend := (h'.scanned.blockEnd h'.line_le h'.lines_of_mem).balanced k before.length
  rw [List.length_map] at hleast
  rw [← hsplit', List.map_append, List.map_cons] at hend
  simpa using (hend hopens hleast).symm

end BlockEnd

/-- A declaration behind a character of two bytes, with a block in its block. -/
def blockInBlock : List (List Char) :=
  ["é f(a; b) \x7b".toList, "  \x7b ; \x7d ".toList, "\x7d x".toList, "\x7d".toList]

/-- The same declaration first on its line, with other lines behind its block. -/
def blockBefore : List (List Char) :=
  ["f(a; b) \x7b".toList, "  \x7b ; \x7d ".toList, "\x7d; \x7b".toList]

theorem braceBlockEnd_balances_blockInBlock :
    GoesOn blockInBlock 1 3 "f(a; b) \x7b".toList ∧
      (∃ i, Opens ((textFrom blockInBlock 1 "f(a; b) \x7b".toList).map Prod.snd) i ∧
        IsLeast {j | Balances ((textFrom blockInBlock 1 "f(a; b) \x7b".toList).map Prod.snd) i j}
          17) ∧
      GoesOn blockBefore 1 0 "f(a; b) \x7b".toList ∧
      braceBlockEnd blockInBlock 1 3 = 3 ∧ braceBlockEnd blockBefore 1 0 = 3 := by
  have hplace : GoesOn blockInBlock 1 3 "f(a; b) \x7b".toList := ⟨by decide, by decide⟩
  have hbefore : GoesOn blockBefore 1 0 "f(a; b) \x7b".toList := ⟨by decide, by decide⟩
  obtain ⟨hend, hsame⟩ := braceBlockEnd_balances hplace
  have hreached : Reached ([] ++ "f(a; b) \x7b  \x7b ; \x7d ".toList) (.inside 1) :=
    reached_nothing.run rfl
  obtain ⟨i, hopens, hleast⟩ := hreached.closes " x\x7d".toList
  have hthird : braceBlockEnd blockInBlock 1 3 = 3 := by
    have hline := hend.balanced i 17 hopens hleast
    exact (Option.some.inj hline).symm
  refine ⟨hplace, ⟨i, hopens, hleast⟩, hbefore, hthird, ?_⟩
  rw [hsame i 17 hopens hleast blockBefore 0 _ hbefore (by decide)]
  exact hthird

end ContextIndex.Extract
