import Mathlib
import ContextIndex.Proofs.Pattern.Search
import ContextIndex.Proofs.Text.WordRuns
import ContextIndex.Query.Candidate

/-!
# Candidates are words

The two patterns for candidates start with an edge of a word and a name.  A name takes as much of a
word as it can, and what has to stand behind it never stands inside a word.  So a match marks a whole
word or nothing (`findsWords_named`), no two matches overlap, and the names that are marked are all
words of the right shape, from left to right (`namesIn_eq`).  The candidates are the first of these
that differ, without the name that is left out and without words of control flow
(`candidates_words`).
-/

namespace ContextIndex.Query

open Pattern

/-! ## Shapes of words -/

/-- An ASCII capital, and then ASCII letters, digits and underscores. -/
def isTypeName : List Char → Bool
  | [] => false
  | c :: cs => c.isUpper && cs.all fun d => d.isAlphanum || d == '_'

/-- A letter whatever its case: an ASCII letter, or one of the two other characters that are equal to
one up to case. -/
def isCaselessLetter (c : Char) : Bool :=
  c.isAlpha || c == '\u017f' || c == '\u212a'

/-- A letter, and then letters, digits and underscores. -/
def isCalleeName : List Char → Bool
  | [] => false
  | c :: cs => isCaselessLetter c && cs.all fun d => isCaselessLetter d || d.isDigit || d == '_'

/-- Whether a bracket opens a text, after any white space. -/
def opensCall (behind : List Char) : Bool :=
  (Text.trimStart behind).head? == some '('

/-! ## Classes -/

section Classes

variable {c : Char}

theorem toNat_lt_of_name (h : c.isAlphanum = true ∨ c = '_') : c.toNat < 128 := by
  obtain h | rfl := h
  · simp only [Char.isAlphanum, Char.isAlpha, Char.isUpper, Char.isLower, Char.isDigit,
      ge_iff_le, Bool.or_eq_true, Bool.and_eq_true, decide_eq_true_eq, UInt32.le_iff_toNat_le] at h
    have hz : 'z'.val.toNat = 122 := rfl
    have hZ : 'Z'.val.toNat = 90 := rfl
    have hnine : '9'.val.toNat = 57 := rfl
    show c.val.toNat < 128
    omega
  · decide

/-- A list has all ASCII letters, digits and underscores with a property if it has those of the
first 128 characters. -/
theorem oneOf_holds {cs : List Char} {p : Char → Bool} (hcs : cs.all p = true)
    (hall : ((List.range 128).all fun n => !p (Char.ofNat n) || cs.contains (Char.ofNat n)) = true)
    (hname : p c = true → c.isAlphanum = true ∨ c = '_') : (CharClass.oneOf cs).holds c = p c := by
  rw [CharClass.holds, Bool.eq_iff_iff]
  refine ⟨fun hc => List.all_eq_true.mp hcs c (List.contains_iff_mem.mp hc), fun hp => ?_⟩
  have hmem := List.all_eq_true.mp hall c.toNat
    (List.mem_range.mpr (toNat_lt_of_name (hname hp)))
  simpa [Char.ofNat_toNat, hp] using hmem

theorem capital_holds : capital.holds c = c.isUpper :=
  oneOf_holds (by decide) (by decide) fun h =>
    .inl (by simp [Char.isAlphanum, Char.isAlpha, h])

theorem letter_holds : letter.holds c = c.isAlpha := by
  rw [letter, CharClass.holds, capital_holds, Char.isAlpha]
  congr 1
  exact oneOf_holds (by decide) (by decide) fun h =>
    .inl (by simp [Char.isAlphanum, Char.isAlpha, h])

theorem digitOrUnderscore_holds : digitOrUnderscore.holds c = (c.isDigit || c == '_') := by
  refine oneOf_holds (p := fun c => c.isDigit || c == '_') (by decide) (by decide)
    fun h => ?_
  obtain h | h := Bool.or_eq_true_iff.mp h
  · exact .inl (by simp [Char.isAlphanum, h])
  · exact .inr (eq_of_beq h)

theorem caselessLetter_holds : caselessLetter.holds c = isCaselessLetter c := by
  rw [caselessLetter, CharClass.holds, letter_holds, isCaselessLetter, CharClass.holds, Bool.or_assoc]
  simp [Bool.beq_eq_decide_eq]

theorem isWordChar_of_caselessLetter (h : caselessLetter.holds c = true) :
    Text.isWordChar c = true := by
  rw [caselessLetter_holds, isCaselessLetter, Bool.or_eq_true, Bool.or_eq_true] at h
  obtain (h | h) | h := h
  · have hname : c.isAlphanum = true := by simp [Char.isAlphanum, h]
    exact Text.isWordChar_of_ascii (toNat_lt_of_name (.inl hname)) (.inl hname)
  · rw [eq_of_beq h]
    decide +kernel
  · rw [eq_of_beq h]
    decide +kernel

theorem isWordChar_of_digitOrUnderscore (h : digitOrUnderscore.holds c = true) :
    Text.isWordChar c = true := by
  rw [digitOrUnderscore_holds, Bool.or_eq_true, beq_iff_eq] at h
  have hname : c.isAlphanum = true ∨ c = '_' := h.imp_left fun h => by simp [Char.isAlphanum, h]
  exact Text.isWordChar_of_ascii (toNat_lt_of_name hname) hname

theorem isWordChar_of_letter (h : letter.holds c = true) : Text.isWordChar c = true :=
  isWordChar_of_caselessLetter (by rw [caselessLetter, CharClass.holds, h, Bool.true_or])

/-- White space separates words. -/
theorem isWordChar_of_isSpace (h : Text.isSpace c = true) : Text.isWordChar c = false := by
  have hspaces : ∀ n ∈ [9, 10, 11, 12, 13, 0x20, 0x85, 0xA0, 0x1680, 0x2000, 0x2001, 0x2002, 0x2003,
      0x2004, 0x2005, 0x2006, 0x2007, 0x2008, 0x2009, 0x200A, 0x2028, 0x2029, 0x202F, 0x205F,
      0x3000], Text.isWordChar (Char.ofNat n) = false := by decide +kernel
  have hc := hspaces c.toNat ?_
  · rwa [Char.ofNat_toNat] at hc
  · simp only [Text.isSpace, Bool.or_eq_true, Bool.and_eq_true, decide_eq_true_eq, beq_iff_eq] at h
    simp only [List.mem_cons, List.not_mem_nil, or_false]
    omega

end Classes

/-! ## A name and what follows it -/

/-- A search that finds the words which have a shape together with what follows them.  A match goes
on behind the word, by so many characters as `gap` says, which belong to no word. -/
structure FindsWords (k : Continuation) (shape : List Char → List Char → Bool)
    (gap : List Char → Nat) : Prop where
  eq : ∀ offset before cs, k offset before cs =
    let word := cs.takeWhile Text.isWordChar
    let behind := cs.dropWhile Text.isWordChar
    if inWord before = false ∧ shape word behind = true then
      some ⟨offset + word.length + gap behind, offset, offset + word.length⟩
    else none
  ne_nil : ∀ behind, shape [] behind = false
  gap : ∀ word behind, shape word behind = true →
    ∀ c ∈ behind.take (gap behind), Text.isWordChar c = false

section Named

variable {first rest : CharClass} {tail : List Pattern} {opens : List Char → Bool}
  {gap : List Char → Nat}

/-- A character of the one class, and then characters of the other one. -/
def isNamed (first rest : CharClass) : List Char → Bool
  | [] => false
  | c :: cs => first.holds c && cs.all rest.holds

/-- What follows a name opens in a certain way, and no word goes on there. -/
structure Follows (tail : List Pattern) (opens : List Char → Bool) (gap : List Char → Nat) :
    Prop where
  search_eq : ∀ offset before cs, inWord before = true → search (all tail) stopHere offset before cs =
    if opens cs then some ⟨offset + gap cs, offset + gap cs, offset + gap cs⟩ else none
  outside : ∀ c cs, opens (c :: cs) = true → Text.isWordChar c = false
  gap : ∀ cs, opens cs = true → ∀ c ∈ cs.take (gap cs), Text.isWordChar c = false

theorem inWord_lastOf {before : Option Char} {cs : List Char} (hbefore : inWord before = true)
    (hcs : ∀ c ∈ cs, Text.isWordChar c = true) : inWord (lastOf before cs) = true := by
  induction cs generalizing before with
  | nil => exact hbefore
  | cons c cs ih =>
    exact ih (hcs c List.mem_cons_self) fun d hd => hcs d (List.mem_cons_of_mem c hd)

/-- A run of characters that belong to words is all of a word, or the word goes on behind it. -/
theorem run_cases {p : Char → Bool} (hp : ∀ c, p c = true → Text.isWordChar c = true)
    (cs : List Char) :
    ((cs.takeWhile Text.isWordChar).all p = true ∧
      cs.takeWhile p = cs.takeWhile Text.isWordChar ∧
      cs.dropWhile p = cs.dropWhile Text.isWordChar) ∨
    ((cs.takeWhile Text.isWordChar).all p = false ∧
      ∃ c ds, cs.dropWhile p = c :: ds ∧ Text.isWordChar c = true) := by
  induction cs with
  | nil => exact .inl ⟨rfl, rfl, rfl⟩
  | cons c cs ih =>
    by_cases hc : p c = true
    · simpa [hc, hp c hc] using ih
    · by_cases hword : Text.isWordChar c = true
      · exact .inr (by simp [hc, hword])
      · exact .inl (by simp [hc, hword])

/-- Behind its first character, a name goes on as long as it can, and what follows decides. -/
theorem searchMany_name (hrest : ∀ c, rest.holds c = true → Text.isWordChar c = true)
    (htail : Follows tail opens gap) {before : Option Char} (hbefore : inWord before = true)
    (offset : Nat) (cs : List Char) :
    searchMany rest (search (all (nameStop :: tail)) stopHere) offset before cs =
      let stop := offset + (cs.takeWhile rest.holds).length
      let behind := cs.dropWhile rest.holds
      if opens behind then some ⟨stop + gap behind, stop + gap behind, stop⟩ else none := by
  have hstop (o : Nat) {b : Option Char} (hb : inWord b = true) (ds : List Char) :
      search (all (nameStop :: tail)) stopHere o b ds =
        if opens ds then some ⟨o + gap ds, o + gap ds, o⟩ else none := by
    rw [search_all_cons, search_nameStop, htail.search_eq o b ds hb]
    split <;> rfl
  rw [searchMany_eq (fun o b d ds hd hb => ?_) hrest hbefore, hstop _ (inWord_lastOf hbefore ?_)]
  · exact fun c hc => hrest c (List.mem_takeWhile_imp hc)
  · rw [hstop o hb, if_neg fun hopens => ?_]
    simpa [hrest d hd] using htail.outside d ds hopens

/-- The search for a name and what follows it finds whole words. -/
theorem findsWords_named (hfirst : ∀ c, first.holds c = true → Text.isWordChar c = true)
    (hrest : ∀ c, rest.holds c = true → Text.isWordChar c = true) (htail : Follows tail opens gap) :
    FindsWords (search (all (edge :: nameStart :: one first :: many rest :: nameStop :: tail)) stopHere)
      (fun word behind => isNamed first rest word && opens behind) gap := by
  refine ⟨fun offset before cs => ?_, fun _ => rfl, fun word behind h => ?_⟩
  · rw [search_all_cons, search_all_cons, search_all_cons, search_all_cons, search_edge,
      search_nameStart]
    cases cs with
    | nil => simp [isNamed]
    | cons c cs =>
      rw [search_one_cons, search_many]
      by_cases hc : first.holds c = true
      · have hword := hfirst c hc
        rw [if_pos hc, searchMany_name hrest htail (show inWord (some c) = true from hword),
          List.takeWhile_cons_of_pos hword, List.dropWhile_cons_of_pos hword]
        obtain ⟨hall, hrun, hbehind⟩ | ⟨hall, d, ds, hbehind, hd⟩ := run_cases hrest cs
        · simp only [hrun, hbehind, isNamed, hc, hall, inWord, List.head?_cons, Option.any_some,
            hword]
          cases before.any Text.isWordChar
          · cases opens (cs.dropWhile Text.isWordChar)
            · simp
            · simp
              omega
          · simp
        · have hopens : opens (d :: ds) = false := by
            refine Bool.eq_false_iff.mpr fun h => ?_
            simpa [hd] using htail.outside d ds h
          simp [hbehind, hopens, isNamed, hall]
      · rw [if_neg hc, Option.map_none, ite_self, if_neg]
        rintro ⟨-, hshape⟩
        by_cases hword : Text.isWordChar c = true
        · simp [hword, isNamed, hc] at hshape
        · simp [hword, isNamed] at hshape
  · exact htail.gap behind (Bool.and_eq_true_iff.mp h).2

end Named

/-! ## All words of a shape -/

section Words

variable {k : Continuation} {shape : List Char → List Char → Bool} {gap : List Char → Nat}

theorem FindsWords.eq_none_of_inWord (h : FindsWords k shape gap) {before : Option Char}
    (hbefore : inWord before = true) (offset : Nat) (cs : List Char) :
    k offset before cs = none := by
  rw [h.eq]
  simp [hbefore]

theorem FindsWords.eq_none_of_head (h : FindsWords k shape gap) {cs : List Char}
    (hhead : cs.head?.any Text.isWordChar = false) (offset : Nat) (before : Option Char) :
    k offset before cs = none := by
  have hword : cs.takeWhile Text.isWordChar = [] := by
    cases cs with
    | nil => rfl
    | cons c cs =>
      have hc : Text.isWordChar c = false := hhead
      simp [hc]
  rw [h.eq]
  simp [hword, h.ne_nil]

theorem FindsWords.of_eq_some (h : FindsWords k shape gap) {offset : Nat} {before : Option Char}
    {cs : List Char} {r : Reach} (hr : k offset before cs = some r) :
    shape (cs.takeWhile Text.isWordChar) (cs.dropWhile Text.isWordChar) = true ∧
      r.stop = offset + (cs.takeWhile Text.isWordChar).length +
        gap (cs.dropWhile Text.isWordChar) := by
  rw [h.eq] at hr
  dsimp only at hr
  split at hr
  · next hfound =>
    cases hr
    exact ⟨hfound.2, rfl⟩
  · cases hr

/-- Neither inside a word that is found nor in the gap behind it is there another one. -/
theorem FindsWords.disjoint (h : FindsWords k shape gap) : Disjoint k := by
  intro offset before cs r hr u v hcs hu hlt
  obtain ⟨hshape, hstop⟩ := h.of_eq_some hr
  have hsplit : cs.takeWhile Text.isWordChar ++ cs.dropWhile Text.isWordChar = u ++ v := by
    rw [List.takeWhile_append_dropWhile, hcs]
  obtain ⟨d, hd, hv⟩ | ⟨d, hword, hv⟩ := List.append_eq_append_iff.mp hsplit
  · -- the place lies in the gap
    refine h.eq_none_of_head ?_ _ _
    cases v with
    | nil => rfl
    | cons c v =>
      have hlength : d.length < gap (cs.dropWhile Text.isWordChar) := by
        rw [hstop, hd, List.length_append] at hlt
        omega
      refine h.gap _ _ hshape c (List.mem_iff_getElem?.mpr ⟨d.length, ?_⟩)
      rw [List.getElem?_take_of_lt hlength, hv, List.getElem?_append_right (Nat.le_refl _),
        Nat.sub_self, List.getElem?_cons_zero]
  · -- the place lies in the word or at its end
    refine h.eq_none_of_inWord ?_ _ _
    have hlast : u.getLast hu ∈ cs.takeWhile Text.isWordChar := by
      rw [hword]
      exact List.mem_append_left d (List.getLast_mem hu)
    rw [lastOf_eq, List.getLast?_eq_some_getLast hu]
    have hinside : Text.isWordChar (u.getLast hu) = true := List.mem_takeWhile_imp hlast
    exact hinside

/-- The words of a text that have the shape are found one by one. -/
theorem FindsWords.map_found (h : FindsWords k shape gap) (before cs : List Char) :
    (found k before.length before.getLast? cs).map (fun m =>
      ((before ++ cs).drop m.reach.nameStart).take (m.reach.nameStop - m.reach.nameStart)) =
      ((Text.wordRunsFrom before cs).filter fun r => shape r.chars r.behind).map Text.Piece.chars := by
  induction cs generalizing before with
  | nil =>
    rw [found, h.eq_none_of_head rfl]
    rfl
  | cons c cs ih =>
    have hlater := ih (before ++ [c])
    rw [List.append_assoc, List.singleton_append, List.length_append, List.length_singleton,
      List.getLast?_concat] at hlater
    rw [found, List.map_append, hlater, Text.wordRunsFrom]
    by_cases hstart : (Text.isWordChar c && !before.getLast?.any Text.isWordChar) = true
    · have hleft : inWord before.getLast? = false :=
        (Bool.not_eq_true' _).mp (Bool.and_eq_true_iff.mp hstart).2
      rw [if_pos hstart, List.filter_cons, h.eq]
      dsimp only
      by_cases hshape : shape ((c :: cs).takeWhile Text.isWordChar)
          ((c :: cs).dropWhile Text.isWordChar) = true
      · rw [if_pos ⟨hleft, hshape⟩, if_pos hshape, Option.map_some, Option.toList_some,
          List.map_singleton, List.drop_left, Nat.add_sub_cancel_left,
          ← List.prefix_iff_eq_take.mp (List.takeWhile_prefix _)]
        rfl
      · rw [if_neg fun hfound => hshape hfound.2, if_neg hshape]
        rfl
    · rw [if_neg hstart]
      have hnone : k before.length before.getLast? (c :: cs) = none := by
        rw [Bool.and_eq_true, Bool.not_eq_true', not_and_or] at hstart
        obtain hc | hbefore := hstart
        · have hhead : (c :: cs).head?.any Text.isWordChar = false := Bool.eq_false_iff.mpr hc
          exact h.eq_none_of_head hhead _ _
        · exact h.eq_none_of_inWord (Bool.eq_true_of_not_eq_false hbefore) _ _
      rw [hnone]
      rfl

/-- The names that a pattern marks are the words of a shape. -/
theorem namesIn_eq {p : Pattern} (hp : FindsWords (search p stopHere) shape gap) (text : List Char) :
    namesIn p text = ((Text.wordRuns text).filter fun r => shape r.chars r.behind).map
      fun r => String.ofList r.chars := by
  have hfound := hp.map_found [] text
  calc namesIn p text
    _ = (((p.matches text).map fun m =>
          (text.drop m.reach.nameStart).take (m.reach.nameStop - m.reach.nameStart))).map
            String.ofList := by
      simp only [namesIn, Extract.Layout.slice_ofText, List.map_map, Function.comp_def]
    _ = (((Text.wordRuns text).filter fun r => shape r.chars r.behind).map Text.Piece.chars).map
          String.ofList := by
      rw [matches_eq_found hp.disjoint]
      exact congrArg (List.map String.ofList) hfound
    _ = _ := List.map_map

end Words

/-! ## Types and callees -/

/-- Behind the name of a type stands an edge of a word. -/
theorem follows_edge : Follows [edge] (fun cs => !inWord cs.head?) fun _ => 0 where
  search_eq offset before cs hbefore := by
    rw [search_all_cons, search_edge, hbefore]
    cases inWord cs.head? <;> rfl
  outside c cs h := (Bool.not_eq_true' _).mp h
  gap := nofun

theorem search_bracket (offset : Nat) (before : Option Char) (c : Char) (cs : List Char) :
    search (all [char '(']) stopHere offset before (c :: cs) =
      if c = '(' then some ⟨offset + 1, offset + 1, offset + 1⟩ else none := by
  simp [char, CharClass.holds, stopHere]

theorem opensCall_cons (c : Char) (cs : List Char) :
    opensCall (c :: cs) = if Text.isSpace c then opensCall cs else c == '(' := by
  by_cases hc : Text.isSpace c = true
  · simp [opensCall, Text.trimStart, hc]
  · simp [opensCall, Text.trimStart, hc]

/-- White space before a bracket goes on to the bracket. -/
theorem searchMany_space (offset : Nat) (before : Option Char) (cs : List Char) :
    searchMany .space (search (all [char '(']) stopHere) offset before cs =
      if opensCall cs then
        let stop := offset + ((cs.takeWhile Text.isSpace).length + 1)
        some ⟨stop, stop, stop⟩
      else none := by
  induction cs generalizing offset before with
  | nil => rfl
  | cons c cs ih =>
    rw [searchMany, CharClass.holds, search_bracket, opensCall_cons]
    by_cases hc : Text.isSpace c = true
    · have hbracket : c ≠ '(' := by
        rintro rfl
        revert hc
        decide
      rw [if_pos hc, if_pos hc, ih, if_neg hbracket, Option.or_none, List.takeWhile_cons_of_pos hc,
        List.length_cons, Nat.add_right_comm, Nat.add_assoc offset]
    · rw [if_neg hc, if_neg hc, List.takeWhile_cons_of_neg hc]
      simp

/-- Behind the name of a callee a bracket opens. -/
theorem follows_bracket : Follows [many .space, char '('] opensCall
    fun cs => (cs.takeWhile Text.isSpace).length + 1 where
  search_eq offset before cs _ := by
    rw [search_all_cons, search_many, searchMany_space]
  outside c cs h := by
    rw [opensCall_cons] at h
    split at h
    · next hc => exact isWordChar_of_isSpace hc
    · rw [eq_of_beq h]
      decide
  gap cs h := by
    obtain ⟨rest, hrest⟩ := List.head?_eq_some_iff.mp (eq_of_beq h)
    have hsplit : cs = cs.takeWhile Text.isSpace ++ '(' :: rest := by
      rw [← hrest, Text.trimStart, List.takeWhile_append_dropWhile]
    have hcs : cs.take ((cs.takeWhile Text.isSpace).length + 1) =
        cs.takeWhile Text.isSpace ++ ['('] :=
      (congrArg (List.take _) hsplit).trans (by simp [List.take_append])
    intro c hc
    rw [hcs, List.mem_append, List.mem_singleton] at hc
    obtain hc | rfl := hc
    · exact isWordChar_of_isSpace (List.mem_takeWhile_imp hc)
    · decide

theorem isNamed_type (word : List Char) :
    isNamed capital (.either letter digitOrUnderscore) word = isTypeName word := by
  cases word with
  | nil => rfl
  | cons c cs =>
    simp only [isNamed, isTypeName, CharClass.holds, capital_holds, letter_holds,
      digitOrUnderscore_holds, Char.isAlphanum, Bool.or_assoc]

theorem isNamed_callee (word : List Char) :
    isNamed caselessLetter (.either caselessLetter digitOrUnderscore) word = isCalleeName word := by
  cases word with
  | nil => rfl
  | cons c cs =>
    simp only [isNamed, isCalleeName, CharClass.holds, caselessLetter_holds,
      digitOrUnderscore_holds, Bool.or_assoc]

theorem findsWords_type : FindsWords (search typePattern stopHere)
    (fun word behind => isTypeName word && !inWord behind.head?) fun _ => 0 := by
  simp only [← isNamed_type]
  refine findsWords_named (fun c hc => ?_) (fun c hc => ?_) follows_edge
  · exact isWordChar_of_letter (by rw [letter, CharClass.holds, hc, Bool.true_or])
  · obtain hc | hc := Bool.or_eq_true_iff.mp hc
    · exact isWordChar_of_letter hc
    · exact isWordChar_of_digitOrUnderscore hc

theorem findsWords_callee : FindsWords (search calleePattern stopHere)
    (fun word behind => isCalleeName word && opensCall behind)
    fun cs => (cs.takeWhile Text.isSpace).length + 1 := by
  simp only [← isNamed_callee]
  refine findsWords_named (fun c hc => isWordChar_of_caselessLetter hc) (fun c hc => ?_)
    follows_bracket
  obtain hc | hc := Bool.or_eq_true_iff.mp hc
  · exact isWordChar_of_caselessLetter hc
  · exact isWordChar_of_digitOrUnderscore hc

/-- Candidates are words of the text.  Listed from left to right, those that have the right shape and
are neither left out nor words of control flow are named once each, as many as the limit allows. -/
theorem candidates_words (text exclude : String) : ∃ runs : List Text.Piece,
    (∀ r, r ∈ runs ↔ Text.IsWordRun text.toList r) ∧
    runs.Pairwise (fun r s => r.before.length < s.before.length) ∧
    referencedTypeNames text exclude =
      (((runs.filter fun r => isTypeName r.chars).map fun r => String.ofList r.chars).filter
        fun n => n != exclude && !Extract.isDenied n).eraseDups.take 10 ∧
    calleeNames text exclude =
      (((runs.filter fun r => isCalleeName r.chars && opensCall r.behind).map
        fun r => String.ofList r.chars).filter
          fun n => n != exclude && !Extract.isDenied n).eraseDups.take 20 := by
  refine ⟨Text.wordRuns text.toList, fun r => Text.mem_wordRuns, Text.pairwise_wordRuns _, ?_, ?_⟩
  · have hwhole : ∀ r ∈ Text.wordRuns text.toList,
        (isTypeName r.chars && !inWord r.behind.head?) = isTypeName r.chars := by
      intro r hr
      have hright : inWord r.behind.head? = false := (Text.mem_wordRuns.mp hr).right
      rw [hright, Bool.not_false, Bool.and_true]
    rw [referencedTypeNames, distinctNames, namesIn_eq findsWords_type, List.filter_congr hwhole,
      maxTypes]
  · rw [calleeNames, distinctNames, namesIn_eq findsWords_callee, maxCallees]

end ContextIndex.Query
