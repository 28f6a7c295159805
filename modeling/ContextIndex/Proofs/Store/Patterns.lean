import ContextIndex.Store.Like

/-!
# What a search pattern matches

The pattern for a text is the text with a backslash in front of each character that means something
else in a pattern, between two that stand for any text.  Backslash and all, each character of the
text stands for itself (`likeMatches_escapeLike`), so the pattern matches the names that hold the
text somewhere, up to the case of ASCII letters.

Texts are not compared as they are (`comparedText`).  A NUL in the text takes the end of its pattern
away, and the name has to end with what stands before it.  `FindsName` is what a search comes to
(`likeMatches_iff_findsName`), and among texts that are compared as they are, it is that the name
contains the text (`findsName_iff_of_plain`).
-/

namespace ContextIndex.Store

/-! ## Patterns -/

/-- A text with its ASCII letters in lower case. -/
def folded (text : List Char) : List Char :=
  text.map Char.toLower

/-- The rest of a text of which a pattern that starts with any text leaves the end. -/
theorem anyEnd_eq_true {α : Type} {p : List α → Bool} {as : List α} :
    anyEnd p as = true ↔ ∃ back, back <:+ as ∧ p back = true := by
  induction as with
  | nil => simp [anyEnd]
  | cons a as ih =>
    rw [anyEnd, Bool.or_eq_true, ih]
    constructor
    · rintro (h | ⟨back, hback, h⟩)
      · exact ⟨a :: as, List.suffix_rfl, h⟩
      · exact ⟨back, hback.trans (List.suffix_cons a as), h⟩
    · rintro ⟨back, hback, h⟩
      obtain rfl | hrest := List.suffix_cons_iff.mp hback
      · exact .inl h
      · exact .inr ⟨back, hrest, h⟩

theorem afterFirst_sameLetter {c : Char} {p : List Char → Bool} {name : List Char} :
    afterFirst (sameLetter c) p name = true ↔
      ∃ d back, name = d :: back ∧ d.toLower = c.toLower ∧ p back = true := by
  cases name with
  | nil => simp [afterFirst]
  | cons d back =>
    simp only [afterFirst, sameLetter, Bool.and_eq_true, beq_iff_eq, List.cons.injEq]
    constructor
    · rintro ⟨hletter, h⟩
      exact ⟨d, back, ⟨rfl, rfl⟩, hletter.symm, h⟩
    · rintro ⟨_, _, ⟨rfl, rfl⟩, hletter, h⟩
      exact ⟨hletter.symm, h⟩

/-- The characters that mean something in a pattern. -/
def Special (c : Char) : Prop :=
  c = '%' ∨ c = '_' ∨ c = '\\'

instance (c : Char) : Decidable (Special c) :=
  inferInstanceAs (Decidable (_ ∨ _))

theorem escapeLike_cons (c : Char) (text : List Char) :
    escapeLike (c :: text) = (if Special c then ['\\', c] else [c]) ++ escapeLike text :=
  rfl

/-- Escaped or not, a character of the text stands for itself. -/
theorem likeMatches_escaped (c : Char) (pattern : List Char) :
    likeMatches ((if Special c then ['\\', c] else [c]) ++ pattern) =
      afterFirst (sameLetter c) (likeMatches pattern) := by
  by_cases hc : Special c
  · rw [if_pos hc]
    rfl
  · rw [if_neg hc]
    simp only [Special, not_or] at hc
    obtain ⟨hpercent, hline, hbackslash⟩ := hc
    show likeMatches (c :: pattern) = _
    rw [likeMatches]
    · exact hpercent
    · exact hline
    · exact fun h _ => hbackslash h
    · exact fun _ _ h _ => hbackslash h

/-- The pattern of a text matches that text, up to the case of letters, and goes on behind it. -/
theorem likeMatches_escapeLike (text pattern name : List Char) :
    likeMatches (escapeLike text ++ pattern) name = true ↔
      ∃ front back, name = front ++ back ∧ folded front = folded text ∧
        likeMatches pattern back = true := by
  induction text generalizing name with
  | nil => 
    constructor
    · intro h
      exact ⟨[], name, rfl, rfl, h⟩
    · rintro ⟨front, back, rfl, hfront, h⟩
      obtain rfl : front = [] := List.map_eq_nil_iff.mp hfront
      exact h
  | cons c text ih =>
    rw [escapeLike_cons, List.append_assoc, likeMatches_escaped, afterFirst_sameLetter]
    constructor
    · rintro ⟨d, rest, rfl, hletter, h⟩
      obtain ⟨front, back, rfl, hfront, h⟩ := (ih rest).mp h
      exact ⟨d :: front, back, rfl, List.cons_eq_cons.mpr ⟨hletter, hfront⟩, h⟩
    · rintro ⟨front, back, rfl, hfront, h⟩
      obtain ⟨d, rest, rfl, hletter, hrest⟩ := List.map_eq_cons_iff.mp hfront
      exact ⟨d, rest ++ back, rfl, hletter, (ih _).mpr ⟨rest, back, rfl, hrest, h⟩⟩

/-- The pattern for a text, and whatever follows it, matches what holds the text somewhere. -/
theorem likeMatches_anywhere (text pattern name : List Char) :
    likeMatches ('%' :: escapeLike text ++ pattern) name = true ↔
      ∃ before front back, name = before ++ (front ++ back) ∧ folded front = folded text ∧
        likeMatches pattern back = true := by
  show anyEnd (likeMatches (escapeLike text ++ pattern)) name = true ↔ _
  simp only [anyEnd_eq_true, likeMatches_escapeLike]
  constructor
  · rintro ⟨_, ⟨before, rfl⟩, front, back, rfl, hfront, h⟩
    exact ⟨before, front, back, rfl, hfront, h⟩
  · rintro ⟨before, front, back, rfl, hfront, h⟩
    exact ⟨front ++ back, List.suffix_append before _, front, back, rfl, hfront, h⟩

/-- A pattern that ends with any text wants the text to be held. -/
theorem likeMatches_containsPattern (text name : List Char) :
    likeMatches (containsPattern text) name = true ↔ folded text <:+: folded name := by
  have hany (back : List Char) : likeMatches ['%'] back = true :=
    anyEnd_eq_true.mpr ⟨[], List.nil_suffix, rfl⟩
  rw [containsPattern, likeMatches_anywhere]
  constructor
  · rintro ⟨before, front, back, rfl, hfront, -⟩
    rw [← hfront]
    exact List.IsInfix.map _ ⟨before, back, List.append_assoc _ _ _⟩
  · rintro ⟨_, _, h⟩
    obtain ⟨held, back, rfl, hheld, -⟩ := List.map_eq_append_iff.mp h.symm
    obtain ⟨before, front, rfl, -, hfront⟩ := List.map_eq_append_iff.mp hheld
    exact ⟨before, front, back, List.append_assoc _ _ _, hfront, hany back⟩

/-- A pattern that ends with the text wants it to be the end. -/
theorem likeMatches_endPattern (text name : List Char) :
    likeMatches ('%' :: escapeLike text) name = true ↔ folded text <:+ folded name := by
  have hends (back : List Char) : likeMatches [] back = true ↔ back = [] := List.isEmpty_iff
  have hanywhere := likeMatches_anywhere text [] name
  rw [List.append_nil] at hanywhere
  rw [hanywhere]
  constructor
  · rintro ⟨before, front, back, rfl, hfront, hback⟩
    rw [(hends back).mp hback, List.append_nil, ← hfront]
    exact List.IsSuffix.map _ (List.suffix_append before front)
  · rintro ⟨_, h⟩
    obtain ⟨before, front, rfl, -, hfront⟩ := List.map_eq_append_iff.mp h.symm
    exact ⟨before, front, [], by rw [List.append_nil], hfront, rfl⟩

/-! ## Texts as they are compared -/

@[simp] theorem comparedText_nul (text : List Char) : comparedText ('\x00' :: text) = [] := rfl

theorem comparedText_cons {c : Char} (hc : c ≠ '\x00') (text : List Char) :
    comparedText (c :: text) = compared c :: comparedText text := by
  simp [comparedText, hc]

/-- A text without a NUL is compared to its end. -/
theorem comparedText_append {text : List Char} (h : '\x00' ∉ text) (rest : List Char) :
    comparedText (text ++ rest) = comparedText text ++ comparedText rest := by
  induction text with
  | nil => rfl
  | cons c text ih =>
    obtain ⟨hc, htext⟩ := List.ne_and_not_mem_of_not_mem_cons h
    rw [List.cons_append, comparedText_cons hc.symm, comparedText_cons hc.symm, ih htext]
    rfl

/-- A text with a NUL is compared up to there. -/
theorem comparedText_append_of_mem {text : List Char} (h : '\x00' ∈ text) (rest : List Char) :
    comparedText (text ++ rest) = comparedText text := by
  induction text with
  | nil => nomatch h
  | cons c text ih =>
    by_cases hc : c = '\x00'
    · subst hc
      rfl
    · have htext := (List.mem_cons.mp h).resolve_left (Ne.symm hc)
      rw [List.cons_append, comparedText_cons hc, comparedText_cons hc, ih htext]

/-- Whatever a character is compared as, it means something in a pattern or does not. -/
theorem special_compared (c : Char) : Special (compared c) ↔ Special c := by
  unfold compared
  split
  · next h =>
    refine iff_of_false (by decide) fun hc => ?_
    obtain rfl | rfl | rfl := hc <;> revert h <;> decide
  · rfl

/-- No backslash is seen as another character, and none is put in front of a NUL. -/
theorem comparedText_escapeLike (text : List Char) :
    comparedText (escapeLike text) = escapeLike (comparedText text) := by
  induction text with
  | nil => rfl
  | cons c text ih =>
    rw [escapeLike_cons]
    by_cases hnul : c = '\x00'
    · subst hnul
      rfl
    rw [comparedText_cons hnul, escapeLike_cons, ← ih]
    by_cases hc : Special c
    · rw [if_pos hc, if_pos ((special_compared c).mpr hc)]
      show comparedText ('\\' :: c :: escapeLike text) = _
      rw [comparedText_cons (by decide), comparedText_cons hnul]
      rfl
    · rw [if_neg hc, if_neg (mt (special_compared c).mp hc)]
      exact comparedText_cons hnul _

theorem nul_mem_escapeLike {text : List Char} : '\x00' ∈ escapeLike text ↔ '\x00' ∈ text := by
  induction text with
  | nil => rfl
  | cons c text ih =>
    rw [escapeLike_cons, List.mem_append, ih, List.mem_cons]
    split <;> simp

/-- A NUL in a text takes the end of its pattern away. -/
theorem comparedText_containsPattern (text : List Char) :
    comparedText (containsPattern text) =
      if '\x00' ∈ text then '%' :: escapeLike (comparedText text)
      else containsPattern (comparedText text) := by
  show comparedText ('%' :: (escapeLike text ++ ['%'])) = _
  rw [comparedText_cons (by decide)]
  by_cases hnul : '\x00' ∈ text
  · rw [if_pos hnul, comparedText_append_of_mem (nul_mem_escapeLike.mpr hnul),
      comparedText_escapeLike]
    rfl
  · rw [if_neg hnul, comparedText_append (mt nul_mem_escapeLike.mp hnul), comparedText_escapeLike]
    rfl

/-- Whether a search for a text finds a name.  If the text has a NUL, the name has to end with what
stands before it. -/
def FindsName (text name : List Char) : Prop :=
  if '\x00' ∈ text then folded (comparedText text) <:+ folded (comparedText name)
  else folded (comparedText text) <:+: folded (comparedText name)

theorem likeMatches_iff_findsName (text name : List Char) :
    likeMatches (comparedText (containsPattern text)) (comparedText name) = true ↔
      FindsName text name := by
  rw [comparedText_containsPattern, FindsName]
  split
  · exact likeMatches_endPattern _ _
  · exact likeMatches_containsPattern _ _

/-- A text in which every character is compared as it is. -/
def Plain (text : List Char) : Prop :=
  ∀ c ∈ text, c.toNat ≠ 0 ∧ c.toNat ≠ 0xFFFE ∧ c.toNat ≠ 0xFFFF

theorem Plain.comparedText_eq {text : List Char} (h : Plain text) : comparedText text = text := by
  induction text with
  | nil => rfl
  | cons c text ih =>
    obtain ⟨⟨hnul, hlast⟩, htext⟩ := List.forall_mem_cons.mp h
    have hc : c ≠ '\x00' := fun heq => hnul (heq ▸ rfl)
    rw [comparedText_cons hc, ih htext, compared, if_neg (not_or.mpr hlast)]

/-- Among plain texts a search finds the names that contain the text, whatever the case of ASCII
letters. -/
theorem findsName_iff_of_plain {text name : List Char} (ht : Plain text) (hn : Plain name) :
    FindsName text name ↔ folded text <:+: folded name := by
  have hnul : '\x00' ∉ text := fun hmem => (ht _ hmem).1 rfl
  rw [FindsName, if_neg hnul, ht.comparedText_eq, hn.comparedText_eq]

end ContextIndex.Store
