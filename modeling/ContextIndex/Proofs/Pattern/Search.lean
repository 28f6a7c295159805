import Mathlib
import ContextIndex.Pattern

/-!
# Columns hold what a search finds

A column has an entry for every place of a text.  Going on from the results of a search, a pattern
turns them into the results of the search for the pattern in front of it (`column_sweep`).  So the
matches of a pattern are read off the results of a backtracking search (`matches_eq_scan`), and the
rest of this module is about the search alone: where it succeeds for a word, for a greedy repetition
and for a reluctant one, and which match comes first.
-/

namespace ContextIndex.Pattern

/-! ## Results at every place -/

/-- The results of a search at the places of a text, the one at its end included. -/
def sweep (k : Continuation) (offset : Nat) (before : Option Char) : List Char → Column
  | [] => [k offset before []]
  | c :: cs => k offset before (c :: cs) :: sweep k (offset + 1) (.some c) cs

/-- The search for nothing: a match stops where it stands. -/
def stopHere : Continuation := fun offset _ _ => .some ⟨offset, offset, offset⟩

section Columns

variable {k k' : Continuation} {offset : Nat} {before : Option Char} {cs : List Char}

theorem sweep_eq_cons (k : Continuation) (offset : Nat) (before : Option Char) (cs : List Char) :
    ∃ later, sweep k offset before cs = k offset before cs :: later := by
  cases cs with
  | nil => exact ⟨[], rfl⟩
  | cons c cs => exact ⟨_, rfl⟩

theorem zipWith_places (f : Place → Option Reach → Option Reach) :
    List.zipWith f (placesFrom offset before cs) (sweep k offset before cs) =
      sweep (fun o b ds => f ⟨o, b, ds.head?⟩ (k o b ds)) offset before cs := by
  induction cs generalizing offset before with
  | nil => rfl
  | cons c cs ih =>
    rw [placesFrom, sweep, List.zipWith_cons_cons, ih]
    rfl

theorem zipWith_sweep (f : Option Reach → Option Reach → Option Reach) :
    List.zipWith f (sweep k offset before cs) (sweep k' offset before cs) =
      sweep (fun o b ds => f (k o b ds) (k' o b ds)) offset before cs := by
  induction cs generalizing offset before with
  | nil => rfl
  | cons c cs ih =>
    rw [sweep, sweep, List.zipWith_cons_cons, ih]
    rfl

theorem endColumn_places :
    endColumn (placesFrom offset before cs) = sweep stopHere offset before cs := by
  induction cs generalizing offset before with
  | nil => rfl
  | cons c cs ih =>
    rw [endColumn, placesFrom, List.map_cons, ← endColumn, ih]
    rfl

theorem column_one_sweep (c : CharClass) :
    column (placesFrom offset before cs) (one c) (sweep k offset before cs) =
      sweep (search (one c) k) offset before cs := by
  simp only [column]
  induction cs generalizing offset before with
  | nil => simp [placesFrom, sweep, search]
  | cons d cs ih =>
    obtain ⟨later, hnext⟩ := sweep_eq_cons k (offset + 1) (.some d) cs
    have hrest := @ih (offset + 1) (.some d)
    rw [hnext, List.tail_cons] at hrest
    rw [placesFrom, sweep, List.tail_cons, hnext, List.cons_append, List.zipWith_cons_cons, hrest]
    rfl

/-- A repetition turns the results of what follows into those of a search that makes the same
choices. -/
theorem column_repeated_sweep {choose : Option Reach → Option Reach → Option Reach} {c : CharClass}
    {found : Continuation} (hnil : ∀ o b, found o b [] = k o b [])
    (hcons : ∀ o b d ds, found o b (d :: ds) =
      if c.holds d then choose (found (o + 1) (.some d) ds) (k o b (d :: ds)) else k o b (d :: ds)) :
    ((placesFrom offset before cs).zip (sweep k offset before cs)).foldr (repeatEntry choose c) [] =
      sweep found offset before cs := by
  induction cs generalizing offset before with
  | nil => simp [placesFrom, sweep, repeatEntry, hnil]
  | cons d cs ih =>
    obtain ⟨later, hnext⟩ := sweep_eq_cons found (offset + 1) (.some d) cs
    rw [placesFrom, sweep, List.zip_cons_cons, List.foldr_cons, ih, hnext, sweep, hnext, hcons]
    rfl

/-- From the results of what comes after it, a pattern computes the results of the search for it. -/
theorem column_sweep (p : Pattern) :
    column (placesFrom offset before cs) p (sweep k offset before cs) =
      sweep (search p k) offset before cs := by
  induction p generalizing k with
  | empty => rfl
  | one c => exact column_one_sweep c
  | many c => exact column_repeated_sweep (fun _ _ => rfl) fun _ _ _ _ => rfl
  | few c => exact column_repeated_sweep (fun _ _ => rfl) fun _ _ _ _ => rfl
  | edge | lineStart | nameStart | nameStop => exact zipWith_places _
  | seq p q ihp ihq => rw [column, ihq, ihp, search]
  | orElse p q ihp ihq =>
    rw [column, ihp, ihq, zipWith_sweep]
    rfl

theorem matches_eq_scan (p : Pattern) (text : List Char) :
    p.matches text = scan 0 0 (sweep (search p stopHere) 0 none text) := by
  rw [«matches», places, endColumn_places, column_sweep]

end Columns

/-! ## What a search finds -/

/-- The character before the place behind a text. -/
def lastOf (before : Option Char) : List Char → Option Char
  | [] => before
  | c :: cs => lastOf (.some c) cs

theorem lastOf_eq (before : Option Char) (cs : List Char) :
    lastOf before cs = cs.getLast?.or before := by
  induction cs generalizing before with
  | nil => rfl
  | cons c cs ih =>
    rw [lastOf, ih, List.getLast?_cons]
    cases cs.getLast? <;> rfl

section Searches

variable {k : Continuation} {offset : Nat} {before : Option Char} {c : CharClass}

@[simp] theorem search_all_nil : search (all []) k = k := rfl

@[simp] theorem search_all_cons (p : Pattern) (ps : List Pattern) :
    search (all (p :: ps)) k = search p (search (all ps) k) := rfl

@[simp] theorem search_one_nil : search (one c) k offset before [] = none := rfl

@[simp] theorem search_one_cons (d : Char) (cs : List Char) :
    search (one c) k offset before (d :: cs) =
      if c.holds d then k (offset + 1) (.some d) cs else none := rfl

@[simp] theorem search_many (cs : List Char) :
    search (many c) k offset before cs = searchMany c k offset before cs := rfl

@[simp] theorem search_few (cs : List Char) :
    search (few c) k offset before cs = searchFew c k offset before cs := rfl

@[simp] theorem search_maybe (p : Pattern) (cs : List Char) :
    search (maybe p) k offset before cs =
      (search p k offset before cs).or (k offset before cs) := rfl

@[simp] theorem search_edge (cs : List Char) : search edge k offset before cs =
    if inWord before != inWord cs.head? then k offset before cs else none := rfl

@[simp] theorem search_nameStart (cs : List Char) : search nameStart k offset before cs =
    (k offset before cs).map fun m => { m with nameStart := offset } := rfl

@[simp] theorem search_nameStop (cs : List Char) : search nameStop k offset before cs =
    (k offset before cs).map fun m => { m with nameStop := offset } := rfl

/-- A text is found where it stands. -/
theorem search_chars (w cs : List Char) :
    search (all (w.map char)) k offset before cs =
      if w.isPrefixOf cs then k (offset + w.length) (lastOf before w) (cs.drop w.length)
      else none := by
  induction w generalizing offset before cs with
  | nil => rfl
  | cons d w ih =>
    rw [List.map_cons, all, search, char]
    cases cs with
    | nil => rfl
    | cons e cs =>
      rw [search]
      by_cases hde : e = d
      · subst hde
        simp [CharClass.holds, ih, lastOf, Nat.add_right_comm, Nat.add_assoc, List.isPrefixOf]
      · simp [CharClass.holds, hde, List.isPrefixOf, Ne.symm hde]

theorem search_text (w : String) (cs : List Char) : search (text w) k offset before cs =
    if w.toList.isPrefixOf cs then
      k (offset + w.toList.length) (lastOf before w.toList) (cs.drop w.toList.length)
    else none :=
  search_chars w.toList cs

/-- A greedy repetition goes on behind all characters of its class, if that leads to a match. -/
theorem searchMany_append {run rest : List Char} {r : Reach} (hrun : ∀ d ∈ run, c.holds d = true)
    (hrest : rest.head?.any c.holds = false)
    (hk : k (offset + run.length) (lastOf before run) rest = .some r) :
    searchMany c k offset before (run ++ rest) = .some r := by
  induction run generalizing offset before with
  | nil =>
    cases rest with
    | nil => exact hk
    | cons d rest =>
      have hd : c.holds d = false := hrest
      rw [List.nil_append, searchMany, hd]
      exact hk
  | cons d run ih =>
    have hd : c.holds d = true := hrun d List.mem_cons_self
    have hnext : searchMany c k (offset + 1) (.some d) (run ++ rest) = .some r := by
      refine ih (fun e he => hrun e (List.mem_cons_of_mem d he)) ?_
      rwa [Nat.add_assoc, Nat.add_comm 1]
    rw [List.cons_append, searchMany, if_pos hd, hnext, Option.some_or]

/-- If there is no match inside a run of characters of its class, a greedy repetition takes all of
them or leads to no match. -/
theorem searchMany_eq (hinside : ∀ o b d ds, c.holds d = true → inWord b = true →
      k o b (d :: ds) = none)
    (hword : ∀ d, c.holds d = true → Text.isWordChar d = true) (hbefore : inWord before = true)
    (cs : List Char) :
    searchMany c k offset before cs =
      k (offset + (cs.takeWhile c.holds).length) (lastOf before (cs.takeWhile c.holds))
        (cs.dropWhile c.holds) := by
  induction cs generalizing offset before with
  | nil => rfl
  | cons d cs ih =>
    rw [searchMany]
    by_cases hd : c.holds d = true
    · rw [if_pos hd, hinside _ _ _ _ hd hbefore, Option.or_none,
        ih (show inWord (.some d) = true from hword d hd),
        List.takeWhile_cons_of_pos hd, List.dropWhile_cons_of_pos hd, lastOf, List.length_cons,
        Nat.add_assoc, Nat.add_comm 1]
    · rw [if_neg hd, List.takeWhile_cons_of_neg hd, List.dropWhile_cons_of_neg hd]
      rfl

/-- A reluctant repetition goes on behind the first characters that lead to a match. -/
theorem searchFew_append {run rest : List Char} {r : Reach} (hrun : ∀ d ∈ run, c.holds d = true)
    (hinside : ∀ u v, run = u ++ v → v ≠ [] → ∀ o b, k o b (v ++ rest) = none)
    (hk : k (offset + run.length) (lastOf before run) rest = .some r) :
    searchFew c k offset before (run ++ rest) = .some r := by
  induction run generalizing offset before with
  | nil =>
    cases rest with
    | nil => exact hk
    | cons d rest =>
      rw [List.nil_append, searchFew, show k offset before (d :: rest) = .some r from hk]
      split <;> rfl
  | cons d run ih =>
    have hd : c.holds d = true := hrun d List.mem_cons_self
    have hnone : k offset before (d :: (run ++ rest)) = none :=
      hinside [] (d :: run) rfl (List.cons_ne_nil d run) offset before
    rw [List.cons_append, searchFew, if_pos hd, hnone, Option.none_or]
    refine ih (fun e he => hrun e (List.mem_cons_of_mem d he)) (fun u v huv hv => ?_) ?_
    · exact hinside (d :: u) v (congrArg (d :: ·) huv) hv
    · rwa [Nat.add_assoc, Nat.add_comm 1]

/-! ## What a success tells -/

/-- A text that is found stands there. -/
theorem exists_of_search_text {w : String} {cs : List Char} {r : Reach}
    (h : search (text w) k offset before cs = .some r) :
    ∃ rest, cs = w.toList ++ rest ∧
      k (offset + w.toList.length) (lastOf before w.toList) rest = .some r := by
  rw [search_text] at h
  split at h
  · next hprefix =>
    obtain ⟨rest, rfl⟩ := List.isPrefixOf_iff_prefix.mp hprefix
    exact ⟨rest, rfl, by rwa [List.drop_left] at h⟩
  · cases h

/-- So does a character. -/
theorem exists_of_search_char {d : Char} {cs : List Char} {r : Reach}
    (h : search (char d) k offset before cs = .some r) :
    ∃ rest, cs = d :: rest ∧ k (offset + 1) (.some d) rest = .some r := by
  cases cs with
  | nil => cases h
  | cons e rest =>
    rw [char, search_one_cons] at h
    split at h
    · next he =>
      obtain rfl : e = d := by simpa [CharClass.holds] using he
      exact ⟨rest, rfl, h⟩
    · cases h

/-- What may be missing is there or it is not. -/
theorem exists_of_maybe_text {w : String} {cs : List Char} {r : Reach}
    (h : search (maybe (text w)) k offset before cs = .some r) :
    ∃ used rest, cs = used ++ rest ∧ (used = w.toList ∨ used = []) ∧
      ∃ b, k (offset + used.length) b rest = .some r := by
  obtain hthere | ⟨-, hmissing⟩ := Option.or_eq_some_iff.mp h
  · obtain ⟨rest, rfl, hrest⟩ := exists_of_search_text hthere
    exact ⟨w.toList, rest, rfl, .inl rfl, _, hrest⟩
  · exact ⟨[], cs, rfl, .inr rfl, before, hmissing⟩

theorem exists_of_maybe_char {d : Char} {cs : List Char} {r : Reach}
    (h : search (maybe (char d)) k offset before cs = .some r) :
    ∃ used rest, cs = used ++ rest ∧ (used = [d] ∨ used = []) ∧
      ∃ b, k (offset + used.length) b rest = .some r := by
  obtain hthere | ⟨-, hmissing⟩ := Option.or_eq_some_iff.mp h
  · obtain ⟨rest, rfl, hrest⟩ := exists_of_search_char hthere
    exact ⟨[d], rest, rfl, .inl rfl, _, hrest⟩
  · exact ⟨[], cs, rfl, .inr rfl, before, hmissing⟩

/-- A repetition goes on behind some characters of its class, whichever it tries first. -/
theorem exists_of_repetition {f : Continuation} (hnil : ∀ o b, f o b [] = k o b [])
    (hcons : ∀ {o b d ds r}, f o b (d :: ds) = .some r →
      k o b (d :: ds) = .some r ∨ c.holds d = true ∧ f (o + 1) (.some d) ds = .some r)
    {cs : List Char} {r : Reach} (h : f offset before cs = .some r) :
    ∃ run rest, cs = run ++ rest ∧ (∀ d ∈ run, c.holds d = true) ∧
      k (offset + run.length) (lastOf before run) rest = .some r := by
  induction cs generalizing offset before with
  | nil => exact ⟨[], [], rfl, nofun, (hnil offset before).symm.trans h⟩
  | cons d cs ih =>
    obtain hhere | ⟨hd, hlater⟩ := hcons h
    · exact ⟨[], d :: cs, rfl, nofun, hhere⟩
    · obtain ⟨run, rest, rfl, hrun, hk⟩ := ih hlater
      rw [Nat.add_assoc, Nat.add_comm 1] at hk
      exact ⟨d :: run, rest, rfl, List.forall_mem_cons.mpr ⟨hd, hrun⟩, hk⟩

theorem exists_of_searchMany {cs : List Char} {r : Reach}
    (h : searchMany c k offset before cs = .some r) :
    ∃ run rest, cs = run ++ rest ∧ (∀ d ∈ run, c.holds d = true) ∧
      k (offset + run.length) (lastOf before run) rest = .some r := by
  refine exists_of_repetition (k := k) (f := searchMany c k) (fun _ _ => rfl) (fun {o b d ds r} h => ?_) h
  rw [searchMany] at h
  split at h
  · next hd => exact (Option.or_eq_some_iff.mp h).symm.imp And.right fun hlater => ⟨hd, hlater⟩
  · exact .inl h

theorem exists_of_searchFew {cs : List Char} {r : Reach}
    (h : searchFew c k offset before cs = .some r) :
    ∃ run rest, cs = run ++ rest ∧ (∀ d ∈ run, c.holds d = true) ∧
      k (offset + run.length) (lastOf before run) rest = .some r := by
  refine exists_of_repetition (k := k) (f := searchFew c k) (fun _ _ => rfl) (fun {o b d ds r} h => ?_) h
  rw [searchFew] at h
  split at h
  · next hd => exact (Option.or_eq_some_iff.mp h).imp_right fun hlater => ⟨hd, hlater.2⟩
  · exact .inl h

end Searches

/-! ## Matches of a search -/

/-- All matches of a search in a text, each where it starts. -/
def found (k : Continuation) (offset : Nat) (before : Option Char) : List Char → List Match
  | [] => ((k offset before []).map (⟨offset, ·⟩)).toList
  | c :: cs =>
    ((k offset before (c :: cs)).map (⟨offset, ·⟩)).toList ++ found k (offset + 1) (.some c) cs

/-- No match of a search starts inside another one. -/
def Disjoint (k : Continuation) : Prop :=
  ∀ offset before cs r, k offset before cs = .some r → ∀ u v, cs = u ++ v → u ≠ [] →
    offset + u.length < r.stop → k (offset + u.length) (lastOf before u) v = none

section Matches

variable {k : Continuation} {offset resume : Nat} {before : Option Char}

/-- Where matches do not overlap, none is passed over. -/
theorem scan_sweep (hk : Disjoint k) {cs : List Char}
    (hresume : ∀ u v, cs = u ++ v → offset + u.length < resume →
      k (offset + u.length) (lastOf before u) v = none) :
    scan offset resume (sweep k offset before cs) = found k offset before cs := by
  induction cs generalizing offset before resume with
  | nil =>
    cases hfirst : k offset before [] with
    | none => simp [sweep, found, scan, hfirst]
    | some r =>
      have hle : ¬offset < resume := fun hlt => by
        simpa [lastOf, hfirst] using hresume [] [] rfl hlt
      simp [sweep, found, scan, hfirst, hle]
  | cons c cs ih =>
    have hlater {next : Nat} (hnext : ∀ u v, c :: cs = u ++ v → u ≠ [] →
        offset + u.length < next → k (offset + u.length) (lastOf before u) v = none) :
        scan (offset + 1) next (sweep k (offset + 1) (.some c) cs) =
          found k (offset + 1) (.some c) cs := by
      refine ih fun u v huv hlt => ?_
      rw [Nat.add_assoc, Nat.add_comm 1] at hlt ⊢
      exact hnext (c :: u) v (congrArg (c :: ·) huv) (List.cons_ne_nil c u) hlt
    rw [sweep, found]
    cases hfirst : k offset before (c :: cs) with
    | none =>
      rw [scan, hlater fun u v huv _ => hresume u v huv]
      rfl
    | some r =>
      have hle : ¬offset < resume := fun hlt => by
        simpa [lastOf, hfirst] using hresume [] (c :: cs) rfl hlt
      rw [scan, if_neg hle, hlater (hk offset before (c :: cs) r hfirst)]
      rfl

/-- The matches of a pattern that do not overlap are all there are. -/
theorem matches_eq_found {p : Pattern} (hp : Disjoint (search p stopHere)) (text : List Char) :
    p.matches text = found (search p stopHere) 0 none text := by
  rw [matches_eq_scan, scan_sweep hp fun u v _ hlt => absurd hlt (Nat.not_lt_zero _)]

/-- The first match lies behind characters with which no match starts. -/
theorem head?_scan {u v : List Char} {r : Reach}
    (hbefore : ∀ c ∈ u, ∀ o b cs, k o b (c :: cs) = none)
    (hr : ∀ b, k (offset + u.length) b v = .some r) :
    (scan offset 0 (sweep k offset before (u ++ v))).head? = .some ⟨offset + u.length, r⟩ := by
  induction u generalizing offset before with
  | nil =>
    obtain ⟨later, hfirst⟩ := sweep_eq_cons k offset before v
    have hmatch : k offset before v = .some r := hr before
    rw [List.nil_append, hfirst, hmatch, scan, if_neg (Nat.not_lt_zero offset)]
    rfl
  | cons c u ih =>
    rw [List.cons_append, sweep, hbefore c List.mem_cons_self, scan, List.length_cons,
      Nat.add_comm u.length, ← Nat.add_assoc]
    refine ih (fun d hd => hbefore d (List.mem_cons_of_mem c hd)) fun b => ?_
    rw [Nat.add_assoc, Nat.add_comm 1]
    exact hr b

theorem head?_matches {p : Pattern} {u v : List Char} {r : Reach}
    (hbefore : ∀ c ∈ u, ∀ o b cs, search p stopHere o b (c :: cs) = none)
    (hr : ∀ b, search p stopHere u.length b v = .some r) :
    (p.matches (u ++ v)).head? = .some ⟨u.length, r⟩ := by
  rw [matches_eq_scan, head?_scan hbefore (by simpa using hr), Nat.zero_add]

theorem scan_eq_nil {cs : List Char}
    (hnone : ∀ u v, cs = u ++ v → ∀ o b, k o b v = none) :
    scan offset resume (sweep k offset before cs) = [] := by
  induction cs generalizing offset before with
  | nil =>
    rw [sweep, hnone [] [] rfl]
    rfl
  | cons c cs ih =>
    rw [sweep, hnone [] (c :: cs) rfl, scan]
    exact ih fun u v huv => hnone (c :: u) v (congrArg (c :: ·) huv)

theorem matches_eq_nil {p : Pattern} {text : List Char}
    (hnone : ∀ u v, text = u ++ v → ∀ o b, search p stopHere o b v = none) :
    p.matches text = [] := by
  rw [matches_eq_scan, scan_eq_nil hnone]

theorem exists_of_mem_scan {cs : List Char} {m : Match}
    (hm : m ∈ scan offset resume (sweep k offset before cs)) :
    ∃ u v, cs = u ++ v ∧ m.start = offset + u.length ∧
      k m.start (lastOf before u) v = .some m.reach := by
  induction cs generalizing offset resume before with
  | nil =>
    rw [sweep] at hm
    cases hfirst : k offset before [] with
    | none => simp [hfirst, scan] at hm
    | some r =>
      rw [hfirst, scan] at hm
      split at hm
      · cases hm
      · obtain rfl : m = ⟨offset, r⟩ := by simpa [scan] using hm
        exact ⟨[], [], rfl, rfl, hfirst⟩
  | cons c cs ih =>
    have hlater {next : Nat} (hm : m ∈ scan (offset + 1) next (sweep k (offset + 1) (.some c) cs)) :
        ∃ u v, c :: cs = u ++ v ∧ m.start = offset + u.length ∧
          k m.start (lastOf before u) v = .some m.reach := by
      obtain ⟨u, v, rfl, hstart, hk⟩ := ih hm
      rw [Nat.add_assoc, Nat.add_comm 1] at hstart
      exact ⟨c :: u, v, rfl, hstart, hk⟩
    rw [sweep] at hm
    cases hfirst : k offset before (c :: cs) with
    | none =>
      rw [hfirst, scan] at hm
      exact hlater hm
    | some r =>
      rw [hfirst, scan] at hm
      split at hm
      · exact hlater hm
      · obtain rfl | hm := List.mem_cons.mp hm
        · exact ⟨[], c :: cs, rfl, rfl, hfirst⟩
        · exact hlater hm

/-- A match is one of the search where it starts. -/
theorem exists_of_mem_matches {p : Pattern} {text : List Char} {m : Match}
    (hm : m ∈ p.matches text) :
    ∃ u v, text = u ++ v ∧ m.start = u.length ∧
      search p stopHere u.length (lastOf none u) v = .some m.reach := by
  rw [matches_eq_scan] at hm
  obtain ⟨u, v, htext, hstart, hk⟩ := exists_of_mem_scan hm
  rw [Nat.zero_add] at hstart
  exact ⟨u, v, htext, hstart, hstart ▸ hk⟩

end Matches

end ContextIndex.Pattern
