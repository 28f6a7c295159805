import ContextIndex.Proofs.Lists
import ContextIndex.Toml.Parser
import ContextIndex.Toml.Printer
import Mathlib.Tactic.SplitIfs

/-!
# Written values are read back

A text that is written in a style that suits it is read as itself, whatever follows it but another
quote or apostrophe (`takeText_writeText`), and the writer picks a style that suits (`suits_styleOf`).

Between quotes a character stands as itself or as an escape (`Spelled`), and the readers of both
styles with quotes take either for the character.  Between triple quotes the reader looks ahead at
one or two quotes in a row: they belong to the text if it goes on behind them (`GoesOn`), and they
belong to it as well if the three that close it come next.  The writer escapes every third quote, and
it writes triple apostrophes only around a text without three in a row, so no other case comes up.

A number is tried as a date, as a time of day and as a number with a fraction before it is read as
the whole number it is.  Each of these readings gives way (`Reading.Yields`), since behind the digits
the line ends.  `Plain.takeValue_chars` puts both kinds of values together.
-/

namespace ContextIndex.Toml

variable {α : Type} {c : Char} {cs ds rest : List Char}

theorem prepend_ok (c : Char) (cs rest : List Char) :
    prepend c (.ok (cs, rest)) = .ok (c :: cs, rest) :=
  rfl

/-! ## Single characters -/

/-- The ways in which a character stands between quotes. -/
inductive Spelled : Char → List Char → Prop
  | plain {c : Char} : isPrintable c = true → c ≠ '"' → c ≠ '\\' → Spelled c [c]
  | escape {e c : Char} : escape? e = some c → Spelled c ['\\', e]
  | code {a b d e c : Char} : scalar? [a, b, d, e] = some c → Spelled c ['\\', 'u', a, b, d, e]

theorem isControl_toNat (h : isControl c = true) : c.toNat < 128 := by
  simp only [isControl, isPrintable, Bool.and_eq_true, Bool.not_eq_true', Bool.or_eq_false_iff,
    Bool.and_eq_false_iff, decide_eq_false_iff_not, bne_eq_false_iff_eq] at h
  omega

theorem scalar?_numericEscape (h : isControl c = true) :
    scalar? ['0', '0', Text.capitalHexDigit (c.toNat / 16), Text.capitalHexDigit (c.toNat % 16)] =
      some c := by
  have hall : ∀ n < 128, scalar?
      ['0', '0', Text.capitalHexDigit (n / 16), Text.capitalHexDigit (n % 16)] =
        some (Char.ofNat n) := by decide +kernel
  rw [hall _ (isControl_toNat h), Char.ofNat_toNat]

/-- What is written for a character other than a quote and a line break. -/
theorem spelled_escapeChar (hquote : c ≠ '"') (hline : c ≠ '\n') : Spelled c (escapeChar c) := by
  unfold escapeChar
  split
  · exact .escape rfl
  · exact .escape rfl
  · exact .escape rfl
  · exact .escape rfl
  · exact .escape rfl
  · next hbackslash _ _ _ _ =>
    by_cases hcontrol : isControl c = true
    · rw [if_pos hcontrol]
      exact .code (scalar?_numericEscape hcontrol)
    · rw [if_neg hcontrol]
      refine .plain ?_ hquote hbackslash
      simpa [isControl, hline] using hcontrol

theorem ne_of_escape? {e : Char} (h : escape? e = some c) :
    e ≠ 'u' ∧ e ≠ 'U' ∧ e ≠ '\n' ∧ e ≠ '\r' ∧ isBlank e = false := by
  unfold escape? at h
  split at h <;> first | decide | cases h

theorem ne_of_isPrintable (h : isPrintable c = true) : c ≠ '\n' ∧ c ≠ '\r' := by
  constructor <;> rintro rfl <;> revert h <;> decide

/-! ## Between quotes -/

theorem Spelled.takeQuoted_append {w : List Char} (h : Spelled c w) (cs : List Char) :
    takeQuoted (w ++ cs) = prepend c (takeQuoted cs) := by
  cases h with
  | plain hprintable hquote hbackslash =>
    rw [List.singleton_append, takeQuoted.eq_7 _ _ hquote (by simp [hbackslash])
      (by simp [hbackslash]) (by simp [hbackslash]) (by simp [hbackslash]), if_pos hprintable]
  | escape he =>
    obtain ⟨hu, hU, -⟩ := ne_of_escape? he
    rw [List.cons_append, List.singleton_append, takeQuoted.eq_6 _ _ (by simp [hu]) (by simp [hU]),
      he]
  | code hcode => simp [takeQuoted, hcode]

theorem quotedBody_cons (c : Char) (cs : List Char) :
    ∃ w, Spelled c w ∧ quotedBody (c :: cs) = w ++ quotedBody cs := by
  by_cases hquote : c = '"'
  · subst hquote
    exact ⟨['\\', '"'], .escape rfl, rfl⟩
  · by_cases hline : c = '\n'
    · subst hline
      exact ⟨['\\', 'n'], .escape rfl, rfl⟩
    · exact ⟨escapeChar c, spelled_escapeChar hquote hline, quotedBody.eq_4 c cs hquote hline⟩

theorem takeQuoted_quotedBody (cs rest : List Char) :
    takeQuoted (quotedBody cs ++ '"' :: rest) = .ok (cs, rest) := by
  induction cs with
  | nil => rfl
  | cons c cs ih =>
    obtain ⟨w, hw, hbody⟩ := quotedBody_cons c cs
    rw [hbody, List.append_assoc, hw.takeQuoted_append, ih, prepend_ok]

/-! ## Between apostrophes -/

theorem takeLiteral_append (h : ∀ c ∈ cs, isPrintable c = true ∧ c ≠ '\'') (rest : List Char) :
    takeLiteral (cs ++ '\'' :: rest) = .ok (cs, rest) := by
  induction cs with
  | nil => rfl
  | cons c cs ih =>
    obtain ⟨⟨hprintable, hapostrophe⟩, hcs⟩ := List.forall_mem_cons.mp h
    rw [List.cons_append, takeLiteral.eq_3 _ _ hapostrophe, if_pos hprintable, ih hcs, prepend_ok]

/-! ## Between triple quotes -/

/-- The ways in which a character stands between triple quotes. -/
inductive LinesSpelled : Char → List Char → Prop
  | line : LinesSpelled '\n' ['\n']
  | spelled {c : Char} {w : List Char} : Spelled c w → LinesSpelled c w

theorem endsLine_cons {c : Char} (hblank : isBlank c = false) (hline : c ≠ '\n') (hreturn : c ≠ '\r')
    (cs : List Char) : endsLine (c :: cs) = false := by
  have hskip : skipBlanks (c :: cs) = c :: cs := List.dropWhile_cons_of_neg (by simp [hblank])
  rw [endsLine, hskip]
  split <;> simp_all

/-- What goes on a text between triple quotes: no quote, and nothing that the text cannot hold. -/
structure GoesOn (cs : List Char) : Prop where
  noQuote : cs.head? ≠ some '"'
  held : goesOn cs = true
  escapes : startsBadEscape cs = false

namespace LinesSpelled

variable {w : List Char} (h : LinesSpelled c w)

include h

theorem takeQuotedLines_append (cs : List Char) :
    takeQuotedLines false (w ++ cs) = prepend c (takeQuotedLines false cs) := by
  cases h with
  | line =>
    rw [List.singleton_append]
    simp [takeQuotedLines]
  | spelled hw =>
    cases hw with
    | plain hprintable hquote hbackslash =>
      obtain ⟨hline, hreturn⟩ := ne_of_isPrintable hprintable
      rw [List.singleton_append, takeQuotedLines.eq_11 _ _ _ (by simp [hquote]) (by simp [hquote])
        (by simp [hquote]) hquote (by simp [hreturn]) (by simp [hbackslash]) (by simp [hbackslash])
        (by simp [hbackslash]) (by simp [hbackslash]), if_neg (by simp), if_pos (.inr hprintable)]
    | escape he =>
      obtain ⟨hu, hU, hline, hreturn, hblank⟩ := ne_of_escape? he
      rw [List.cons_append, List.singleton_append,
        takeQuotedLines.eq_10 _ _ _ (by simp [hu]) (by simp [hU]),
        endsLine_cons hblank hline hreturn, he]
      rfl
    | code hcode => simp [takeQuotedLines, hcode]

theorem goesOn_append (cs : List Char) : GoesOn (w ++ cs) := by
  cases h with
  | line => exact ⟨by simp, rfl, rfl⟩
  | spelled hw =>
    cases hw with
    | plain hprintable hquote hbackslash =>
      obtain ⟨hline, hreturn⟩ := ne_of_isPrintable hprintable
      refine ⟨by simpa using hquote, ?_, ?_⟩
      · rw [List.singleton_append, goesOn.eq_5 _ _ (by simp [hbackslash]) hline (by simp [hreturn])]
        exact hprintable
      · rw [List.singleton_append, startsBadEscape.eq_2 _ (by simp [hbackslash])]
    | @escape e _ he =>
      obtain ⟨hu, hU, hline, hreturn, hblank⟩ := ne_of_escape? he
      refine ⟨by simp, rfl, ?_⟩
      have hstarts : startsEscape (e :: cs) = true := by
        rw [startsEscape.eq_3 _ _ (by simp [hu]) (by simp [hU]), he]
        rfl
      simp [startsBadEscape, hstarts]
    | code hcode => exact ⟨by simp, rfl, by simp [startsBadEscape, startsEscape, hcode]⟩

end LinesSpelled

theorem quotedLinesBody_cons {run : Nat} (h : c = '"' → 2 ≤ run) (cs : List Char) :
    ∃ w, LinesSpelled c w ∧ quotedLinesBody run (c :: cs) = w ++ quotedLinesBody 0 cs := by
  by_cases hquote : c = '"'
  · subst hquote
    refine ⟨['\\', '"'], .spelled (.escape rfl), ?_⟩
    rw [quotedLinesBody, if_neg (Nat.not_lt.mpr (h rfl))]
    rfl
  · by_cases hline : c = '\n'
    · subst hline
      exact ⟨['\n'], .line, rfl⟩
    · exact ⟨escapeChar c, .spelled (spelled_escapeChar hquote hline),
        quotedLinesBody.eq_4 run c cs hquote hline⟩

theorem quotedLinesBody_quote {run : Nat} (h : run < 2) (cs : List Char) :
    quotedLinesBody run ('"' :: cs) = '"' :: quotedLinesBody (run + 1) cs := by
  rw [quotedLinesBody, if_pos h]

theorem GoesOn.quotesInside (h : GoesOn cs) (front : List Char) (hfront : ∀ c ∈ front, c = '"')
    (r : Reading (List Char)) : quotesInside (front ++ cs) r = prepend '"' r := by
  have hbehind : (front ++ cs).dropWhile (· == '"') = cs := by
    rw [List.dropWhile_append_of_pos (by simpa using hfront)]
    cases cs with
    | nil => rfl
    | cons c cs => exact List.dropWhile_cons_of_neg (by simpa using h.noQuote)
  simp only [Toml.quotesInside, hbehind, h.escapes, h.held, Bool.false_eq_true, if_false, if_true]

/-- One quote belongs to a text that goes on behind it. -/
theorem GoesOn.takeQuotedLines_quote (h : GoesOn cs) :
    takeQuotedLines false ('"' :: cs) = prepend '"' (takeQuotedLines false cs) := by
  have hne (ds : List Char) : cs ≠ '"' :: ds := by
    rintro rfl
    exact h.noQuote rfl
  rw [takeQuotedLines.eq_5 _ _ (fun _ => hne _) (fun _ => hne _) (fun _ => hne _)]
  exact h.quotesInside ['"'] (by simp) _

/-- Two quotes belong to a text that goes on behind them. -/
theorem GoesOn.takeQuotedLines_quotes (h : GoesOn cs) :
    takeQuotedLines false ('"' :: '"' :: cs) =
      prepend '"' (takeQuotedLines false ('"' :: cs)) := by
  have hne (ds : List Char) : '"' :: cs ≠ '"' :: '"' :: ds := by
    rintro heq
    rw [(List.cons.inj heq).2] at h
    exact h.noQuote rfl
  rw [takeQuotedLines.eq_5 _ _ (fun _ => hne _) (fun _ => hne _) (fun _ => hne _)]
  exact h.quotesInside ['"', '"'] (by simp) _

section Closing

variable (hrest : rest.head? ≠ some '"')

include hrest

/-- Up to two quotes before the three that close a text belong to it. -/
theorem takeQuotedLines_close (front : List Char) (hfront : ∀ c ∈ front, c = '"')
    (hlength : front.length ≤ 2) :
    takeQuotedLines false (front ++ '"' :: '"' :: '"' :: rest) = .ok (front, rest) := by
  have hne (ds : List Char) : rest = '"' :: ds → False := by
    rintro rfl
    exact hrest rfl
  match front, hfront, hlength with
  | [], _, _ => exact takeQuotedLines.eq_4 _ _ (fun _ => hne _) (fun _ => hne _)
  | [a], h, _ =>
    obtain rfl : a = '"' := h a List.mem_cons_self
    exact takeQuotedLines.eq_3 _ _ (fun _ => hne _)
  | [a, b], h, _ =>
    obtain ⟨rfl, rfl⟩ : a = '"' ∧ b = '"' := by simpa using h
    exact takeQuotedLines.eq_2 _ _

/-- The induction is on the text.  Where quotes follow each other unescaped, how they are read depends
on what comes behind the last of them. -/
theorem takeQuotedLines_quotedLinesBody (cs : List Char) (run : Nat) :
    takeQuotedLines false (quotedLinesBody run cs ++ '"' :: '"' :: '"' :: rest) =
      .ok (cs, rest) := by
  -- Where the next character is not written as a bare quote, the text goes on with it.
  have hgoes {run : Nat} {c : Char} (hc : c = '"' → 2 ≤ run) (cs : List Char) :
      GoesOn (quotedLinesBody run (c :: cs) ++ '"' :: '"' :: '"' :: rest) := by
    obtain ⟨w, hw, hbody⟩ := quotedLinesBody_cons hc cs
    rw [hbody, List.append_assoc]
    exact hw.goesOn_append _
  induction cs generalizing run with
  | nil => exact takeQuotedLines_close hrest [] (by simp) (by simp)
  | cons c cs ih =>
    by_cases hbare : c = '"' → 2 ≤ run
    · obtain ⟨w, hw, hbody⟩ := quotedLinesBody_cons hbare cs
      rw [hbody, List.append_assoc, hw.takeQuotedLines_append, ih, prepend_ok]
    · obtain ⟨rfl, hrun⟩ := Classical.not_imp.mp hbare
      have hih := ih (run + 1)
      rw [quotedLinesBody_quote (Nat.not_le.mp hrun), List.cons_append]
      cases cs with
      | nil => exact takeQuotedLines_close hrest ['"'] (by simp) (by simp)
      | cons d ds =>
        by_cases hnext : d = '"' → 2 ≤ run + 1
        · rw [(hgoes hnext ds).takeQuotedLines_quote, hih, prepend_ok]
        · obtain ⟨rfl, hrun⟩ := Classical.not_imp.mp hnext
          rw [quotedLinesBody_quote (Nat.not_le.mp hrun), List.cons_append] at hih ⊢
          cases ds with
          | nil => exact takeQuotedLines_close hrest ['"', '"'] (by simp) (by simp)
          | cons e es =>
            rw [(hgoes (fun _ => Nat.le_add_left 2 run) es).takeQuotedLines_quotes, hih,
              prepend_ok]

end Closing

/-! ## Between triple apostrophes -/

/-- What a text between triple apostrophes can hold. -/
def isHeld (c : Char) : Bool :=
  c == '\n' || isPrintable c

theorem le_longestRunFrom (c : Char) (seen : Nat) (cs : List Char) :
    seen ≤ longestRunFrom c seen cs := by
  induction cs generalizing seen with
  | nil => exact Nat.le_refl seen
  | cons d ds ih =>
    rw [longestRunFrom]
    split
    · exact Nat.le_of_succ_le (ih (seen + 1))
    · exact Nat.le_max_left _ _

theorem takeLiteralLines_cons (hheld : isHeld c = true) (hapostrophe : c ≠ '\'') (cs : List Char) :
    takeLiteralLines (c :: cs) = prepend c (takeLiteralLines cs) := by
  have hreturn : c ≠ '\r' := by
    rintro rfl
    revert hheld
    decide
  rw [takeLiteralLines.eq_7 _ _ (by simp [hapostrophe]) (by simp [hapostrophe])
    (by simp [hapostrophe]) hapostrophe (by simp [hreturn]), if_pos (by simpa [isHeld] using hheld)]

theorem apostrophesInside_append (hheld : isHeld c = true) (hapostrophe : c ≠ '\'')
    (front : List Char) (hfront : ∀ c ∈ front, c = '\'') (cs : List Char)
    (r : Reading (List Char)) : apostrophesInside (front ++ c :: cs) r = prepend '\'' r := by
  have hbehind : (front ++ c :: cs).dropWhile (· == '\'') = c :: cs := by
    rw [List.dropWhile_append_of_pos (by simpa using hfront),
      List.dropWhile_cons_of_neg (by simpa using hapostrophe)]
  have hgoes : (c :: cs == ['\\'] || goesOn (c :: cs)) = true := by
    rw [goesOn.eq_def]
    split <;> simp_all [isHeld]
  simp only [apostrophesInside, hbehind, hgoes, if_true]

section Closing

variable (hrest : rest.head? ≠ some '\'')

include hrest

/-- Up to two apostrophes before the three that close a text belong to it. -/
theorem takeLiteralLines_close (front : List Char) (hfront : ∀ c ∈ front, c = '\'')
    (hlength : front.length ≤ 2) :
    takeLiteralLines (front ++ '\'' :: '\'' :: '\'' :: rest) = .ok (front, rest) := by
  have hne (ds : List Char) : rest = '\'' :: ds → False := by
    rintro rfl
    exact hrest rfl
  match front, hfront, hlength with
  | [], _, _ => exact takeLiteralLines.eq_4 _ (fun _ => hne _) (fun _ => hne _)
  | [a], h, _ =>
    obtain rfl : a = '\'' := h a List.mem_cons_self
    exact takeLiteralLines.eq_3 _ (fun _ => hne _)
  | [a, b], h, _ =>
    obtain ⟨rfl, rfl⟩ : a = '\'' ∧ b = '\'' := by simpa using h
    exact takeLiteralLines.eq_2 _

/-- The induction is on the text, after some apostrophes in a row. -/
theorem takeLiteralLines_append (hheld : ∀ c ∈ cs, isHeld c = true) {seen : Nat}
    (hrun : longestRunFrom '\'' seen cs ≤ 2) :
    takeLiteralLines (cs ++ '\'' :: '\'' :: '\'' :: rest) = .ok (cs, rest) := by
  induction cs generalizing seen with
  | nil => exact takeLiteralLines_close hrest [] (by simp) (by simp)
  | cons c cs ih =>
    obtain ⟨hc, hcs⟩ := List.forall_mem_cons.mp hheld
    by_cases hapostrophe : c = '\''
    · subst hapostrophe
      rw [longestRunFrom, if_pos rfl] at hrun
      have hih := ih hcs hrun
      cases cs with
      | nil => exact takeLiteralLines_close hrest ['\''] (by simp) (by simp)
      | cons d ds =>
        obtain ⟨hd, hds⟩ := List.forall_mem_cons.mp hcs
        by_cases hnext : d = '\''
        · subst hnext
          rw [longestRunFrom, if_pos rfl] at hrun
          cases ds with
          | nil => exact takeLiteralLines_close hrest ['\'', '\''] (by simp) (by simp)
          | cons e es =>
            have he := List.forall_mem_cons.mp hds
            have hlast : e ≠ '\'' := by
              rintro rfl
              rw [longestRunFrom, if_pos rfl] at hrun
              have hle := le_longestRunFrom '\'' (seen + 1 + 1 + 1) es
              omega
            rw [List.cons_append, List.cons_append, List.cons_append,
              takeLiteralLines.eq_5 _ (by simp [hlast]) (by simp [hlast]) (by simp [hlast])]
            rw [List.cons_append, List.cons_append] at hih
            rw [hih]
            exact apostrophesInside_append he.1 hlast ['\'', '\''] (by simp) _ _
        · rw [List.cons_append, List.cons_append,
            takeLiteralLines.eq_5 _ (by simp [hnext]) (by simp [hnext]) (by simp [hnext])]
          rw [List.cons_append] at hih
          rw [hih]
          exact apostrophesInside_append hd hnext ['\''] (by simp) _ _
    · rw [longestRunFrom, if_neg hapostrophe] at hrun
      rw [List.cons_append, takeLiteralLines_cons hc hapostrophe,
        ih hcs (Nat.le_trans (Nat.le_max_right _ _) hrun), prepend_ok]

end Closing

/-! ## Styles -/

/-- The texts that are written as they are in a style; those with quotes have escapes. -/
def TextStyle.Suits : TextStyle → List Char → Prop
  | .quoted, _ => True
  | .literal, cs => ∀ c ∈ cs, isPrintable c = true ∧ c ≠ '\''
  | .quotedLines, _ => True
  | .literalLines, cs => (∀ c ∈ cs, isHeld c = true) ∧ longestRun '\'' cs ≤ 2

theorem not_mem_of_longestRunFrom {seen : Nat} (h : longestRunFrom c seen cs = 0) : c ∉ cs := by
  induction cs generalizing seen with
  | nil => exact List.not_mem_nil
  | cons d ds ih =>
    rw [longestRunFrom] at h
    split at h
    · have hle := le_longestRunFrom c (seen + 1) ds
      omega
    · next hne =>
      have hbehind : longestRunFrom c 0 ds = 0 := by omega
      exact List.not_mem_cons_of_ne_of_not_mem (Ne.symm hne) (ih hbehind)

/-- The writer picks a style that suits the text. -/
theorem suits_styleOf (cs : List Char) : (styleOf cs).Suits cs := by
  have hheld (h : (!cs.any isControl) = true) : ∀ c ∈ cs, isHeld c = true := by
    intro c hc
    have hplain : isControl c = false := by
      simp only [Bool.not_eq_true', List.any_eq_false, Bool.not_eq_true] at h
      exact h c hc
    by_cases hline : c = '\n'
    · simp [isHeld, hline]
    · simpa [isHeld, isControl, hline] using hplain
  unfold styleOf
  simp only
  split_ifs with hquoted hliteral hquotedLines hliteralLines
  · trivial
  · simp only [Bool.and_eq_true, beq_iff_eq] at hliteral
    obtain ⟨⟨hplain, hrun⟩, hline⟩ := hliteral
    intro c hc
    have hne : c ≠ '\n' := by
      rintro rfl
      simp [hc] at hline
    refine ⟨by simpa [isHeld, hne] using hheld hplain c hc, ?_⟩
    rintro rfl
    exact not_mem_of_longestRunFrom hrun hc
  · trivial
  · simp only [Bool.and_eq_true, decide_eq_true_eq] at hliteralLines
    exact ⟨hheld hliteralLines.1, hliteralLines.2⟩
  · trivial
  · trivial

/-! ## Texts in any style -/

/-- The first character of a written one is no line break. -/
theorem Spelled.head_ne {w : List Char} (h : Spelled c w) (cs : List Char) :
    ∀ d ∈ (w ++ cs).head?, d ≠ '\n' ∧ d ≠ '\r' := by
  cases h with
  | plain hprintable => simpa using ne_of_isPrintable hprintable
  | escape | code => simp

theorem head_quotedLinesBody_ne (h : '\n' ∉ cs) :
    ∀ d ∈ (quotedLinesBody 0 cs ++ '"' :: rest).head?, d ≠ '\n' ∧ d ≠ '\r' := by
  cases cs with
  | nil => simp [quotedLinesBody]
  | cons c cs =>
    by_cases hquote : c = '"'
    · subst hquote
      simp [quotedLinesBody_quote]
    · have hline : c ≠ '\n' := fun hc => h (hc ▸ List.mem_cons_self)
      rw [quotedLinesBody.eq_4 0 c cs hquote hline, List.append_assoc]
      exact (spelled_escapeChar hquote hline).head_ne _

theorem head_ne_of_isHeld (hheld : ∀ c ∈ cs, isHeld c = true) (h : '\n' ∉ cs) :
    ∀ d ∈ (cs ++ '\'' :: rest).head?, d ≠ '\n' ∧ d ≠ '\r' := by
  cases cs with
  | nil => simp
  | cons c cs =>
    have hline : c ≠ '\n' := fun hc => h (hc ▸ List.mem_cons_self)
    have hc := hheld c List.mem_cons_self
    simp only [isHeld, Bool.or_eq_true, beq_iff_eq, or_iff_right hline] at hc
    simpa using ne_of_isPrintable hc

/-- The reader drops the line break that the writer puts before a text with line breaks, and no
other. -/
theorem dropBreak_leadingBreak {ds : List Char}
    (h : '\n' ∉ cs → ∀ d ∈ ds.head?, d ≠ '\n' ∧ d ≠ '\r') :
    dropBreak (leadingBreak cs ++ ds) = ds := by
  unfold leadingBreak
  split
  · rfl
  · next hline =>
    have hhead := h (by simpa using hline)
    rw [List.nil_append]
    unfold dropBreak
    split <;> simp_all

section Follow

variable (hrest : rest.head? ≠ some '"' ∧ rest.head? ≠ some '\'')

include hrest

/-- A text in a style that suits it is read back, if no quote and no apostrophe follows it. -/
theorem takeText_writeText {style : TextStyle} (h : style.Suits cs) :
    takeText (writeText style cs ++ rest) = .ok (cs, rest) := by
  cases style with
  | quoted =>
    have hne : ∀ ds, quotedBody cs ++ '"' :: rest ≠ '"' :: '"' :: ds := by
      intro ds heq
      cases cs with
      | nil => exact hrest.1 (by simp [(List.cons.inj heq).2])
      | cons c cs =>
        obtain ⟨w, hw, hbody⟩ := quotedBody_cons c cs
        rw [hbody, List.append_assoc] at heq
        exact ((LinesSpelled.spelled hw).goesOn_append _).noQuote (by rw [heq]; rfl)
    rw [writeText, List.append_assoc, List.singleton_append, List.cons_append,
      takeText.eq_3 _ hne, takeQuoted_quotedBody]
  | literal =>
    have hne : ∀ ds, cs ++ '\'' :: rest ≠ '\'' :: '\'' :: ds := by
      intro ds heq
      cases cs with
      | nil => exact hrest.2 (by simp [(List.cons.inj heq).2])
      | cons c cs => exact (h c List.mem_cons_self).2 (List.cons.inj heq).1
    rw [writeText, List.append_assoc, List.singleton_append, List.cons_append,
      takeText.eq_4 _ hne, takeLiteral_append h]
  | quotedLines =>
    have htext : writeText .quotedLines cs ++ rest = '"' :: '"' :: '"' ::
        (leadingBreak cs ++ (quotedLinesBody 0 cs ++ '"' :: '"' :: '"' :: rest)) := by
      simp [writeText]
    rw [htext, takeText, dropBreak_leadingBreak fun hline => head_quotedLinesBody_ne hline,
      takeQuotedLines_quotedLinesBody hrest.1]
  | literalLines =>
    have htext : writeText .literalLines cs ++ rest = '\'' :: '\'' :: '\'' ::
        (leadingBreak cs ++ (cs ++ '\'' :: '\'' :: '\'' :: rest)) := by
      simp [writeText]
    rw [htext, takeText, dropBreak_leadingBreak fun hline => head_ne_of_isHeld h.1 hline,
      takeLiteralLines_append hrest.2 h.1 h.2]

theorem takeText_textChars (cs : List Char) : takeText (textChars cs ++ rest) = .ok (cs, rest) :=
  takeText_writeText hrest (suits_styleOf cs)

end Follow

/-- A text starts with a quote or an apostrophe. -/
theorem textChars_eq_cons (cs : List Char) :
    ∃ c ds, textChars cs = c :: ds ∧ (c = '"' ∨ c = '\'') := by
  unfold textChars
  cases styleOf cs with
  | quoted => exact ⟨_, _, rfl, .inl rfl⟩
  | literal => exact ⟨_, _, rfl, .inr rfl⟩
  | quotedLines => exact ⟨_, _, rfl, .inl rfl⟩
  | literalLines => exact ⟨_, _, rfl, .inr rfl⟩

/-! ## Readings that give way -/

/-- A reading that fails and leaves it to the next one. -/
def Reading.Yields (r : Reading α) : Prop :=
  ∃ s : Snag, r = .error s ∧ s.firm = false

namespace Reading.Yields

variable {r : Reading α} (h : r.Yields)

include h

theorem orElse (other : Unit → Reading α) : r.orElse other = other () := by
  obtain ⟨s, rfl, hs⟩ := h
  simp [Reading.orElse, hs]

theorem inside (part : Part) : (r.inside part).Yields := by
  obtain ⟨s, rfl, hs⟩ := h
  exact ⟨s.inside part, rfl, hs⟩

end Reading.Yields

/-! ## Whole numbers -/

/-- Digits that write a number, without zeros in front. -/
structure Numeral (n : Nat) (ds : List Char) : Prop where
  digits : ∀ c ∈ ds, c.isDigit = true
  value : Text.numeral? 10 ds = some n
  leading : ds = ['0'] ∨ ∃ d ds', ds = d :: ds' ∧ d ≠ '0'

theorem numeral_toDigits (n : Nat) : Numeral n (Nat.toDigits 10 n) := by
  refine ⟨fun c => Nat.isDigit_of_mem_toDigits (by decide) (by decide), Text.numeral?_toDigits n, ?_⟩
  rcases Nat.eq_zero_or_pos n with rfl | hpos
  · exact .inl rfl
  · exact .inr (Text.head_toDigits hpos)

theorem takeGrouped_digits (h : ∀ c ∈ ds, c.isDigit = true) (rest : List Char) :
    takeGrouped Char.isDigit (ds ++ '\n' :: rest) = .ok (ds, '\n' :: rest) := by
  induction ds with
  | nil => rfl
  | cons d ds ih =>
    obtain ⟨hd, hds⟩ := List.forall_mem_cons.mp h
    have hne := ne_of_test hd (b := '_') (by decide)
    rw [List.cons_append, takeGrouped.eq_4 _ _ _ (by simp [hne]) (by simp [hne]), if_pos hd, ih hds]
    rfl

theorem skipDate_digits (h : ∀ c ∈ ds, c.isDigit = true) (rest : List Char) :
    ∃ s, skipDate (ds ++ '\n' :: rest) = .error s ∧ s.firm = false := by
  unfold skipDate
  split
  · next a b c d more heq =>
    obtain hline | hhyphen := mem_or_mem_of_append_cons (a := [a, b, c, d]) (by decide) heq
    · have hnone : Text.numeral? 10 [a, b, c, d] = none := Text.numeral?_eq_none hline (by decide)
      simp only [hnone]
      exact ⟨_, rfl, rfl⟩
    · exact absurd (h _ hhyphen) (by decide)
  · exact ⟨_, rfl, rfl⟩

theorem takeTwo_cases (least most : Nat) (cs : List Char) :
    (∃ s, takeTwo least most cs = .error s ∧ s.firm = false) ∨
      ∃ a b n rest, cs = a :: b :: rest ∧ a.isDigit = true ∧ b.isDigit = true ∧
        takeTwo least most cs = .ok (n, rest) := by
  unfold takeTwo
  split
  · next a b rest =>
    split
    · next hdigits =>
      obtain ⟨ha, hb⟩ := (Bool.and_eq_true _ _).mp hdigits
      simp only
      split
      · exact .inr ⟨a, b, _, rest, rfl, ha, hb, rfl⟩
      · exact .inl ⟨_, rfl, rfl⟩
    · exact .inl ⟨_, rfl, rfl⟩
  · exact .inl ⟨_, rfl, rfl⟩

theorem skipTime_digits (h : ∀ c ∈ ds, c.isDigit = true) (rest : List Char) :
    ∃ s, skipTime (ds ++ '\n' :: rest) = .error s ∧ s.firm = false := by
  unfold skipTime
  obtain ⟨s, htwo, hs⟩ | ⟨a, b, n, more, hcs, ha, hb, htwo⟩ := takeTwo_cases 0 23 (ds ++ '\n' :: rest)
  · rw [htwo]
    exact ⟨s, rfl, hs⟩
  · -- Behind the two digits there are more of them, or the line ends.
    have hmore : ∃ d ds', more = d :: ds' ∧ d ≠ ':' := by
      match ds, h, hcs with
      | [], _, hcs =>
        rw [← (List.cons.inj hcs).1] at ha
        exact absurd ha (by decide)
      | [x], _, hcs =>
        rw [← (List.cons.inj (List.cons.inj hcs).2).1] at hb
        exact absurd hb (by decide)
      | [x, y], _, hcs => exact ⟨'\n', rest, (List.cons.inj (List.cons.inj hcs).2).2.symm, by decide⟩
      | x :: y :: z :: zs, h, hcs =>
        have hz : z.isDigit = true := h z (by simp)
        exact ⟨z, _, (List.cons.inj (List.cons.inj hcs).2).2.symm, ne_of_test hz (by decide)⟩
    obtain ⟨d, ds', rfl, hd⟩ := hmore
    rw [htwo]
    refine ⟨{ ahead := d :: ds' }, ?_, rfl⟩
    show (skipSign ':' (d :: ds') >>= _) = _
    rw [skipSign, if_neg hd]
    rfl

theorem takeMoment_digits (h : ∀ c ∈ ds, c.isDigit = true) (rest : List Char) :
    (takeMoment (ds ++ '\n' :: rest)).Yields := by
  obtain ⟨s, hdate, hs⟩ := skipDate_digits h rest
  obtain ⟨s', htime, hs'⟩ := skipTime_digits h rest
  have hdated : (takeDated (ds ++ '\n' :: rest)).Yields := by
    unfold takeDated
    rw [hdate]
    exact ⟨_, rfl, hs⟩
  unfold takeMoment
  rw [hdated.orElse]
  unfold takeTimed
  rw [htime]
  exact ⟨_, rfl, hs'⟩

namespace Numeral

variable {n : Nat} (h : Numeral n ds)

include h

theorem cons : ∃ d ds', ds = d :: ds' ∧ d.isDigit = true := by
  obtain rfl | ⟨d, ds', rfl, -⟩ := h.leading
  · exact ⟨'0', [], rfl, rfl⟩
  · exact ⟨d, ds', rfl, h.digits d List.mem_cons_self⟩

theorem splitSign (rest : List Char) :
    Toml.splitSign (ds ++ '\n' :: rest) = (false, ds ++ '\n' :: rest) := by
  obtain ⟨d, ds', rfl, hd⟩ := h.cons
  have hminus := ne_of_test hd (b := '-') (by decide)
  have hplus := ne_of_test hd (b := '+') (by decide)
  exact splitSign.eq_3 _ (by simp [hminus]) (by simp [hplus])

theorem takeDecimal (rest : List Char) :
    Toml.takeDecimal (ds ++ '\n' :: rest) = .ok ((false, ds), '\n' :: rest) := by
  unfold Toml.takeDecimal
  rw [h.splitSign]
  obtain rfl | ⟨d, ds', rfl, hd⟩ := h.leading
  · rfl
  · obtain ⟨hdigit, hdigits⟩ := List.forall_mem_cons.mp h.digits
    have hall : takeDigits Char.isDigit (d :: ds' ++ '\n' :: rest) =
        .ok (d :: ds', '\n' :: rest) := by
      rw [List.cons_append, takeDigits, if_pos hdigit, takeGrouped_digits hdigits]
      rfl
    simp only
    split
    · next heq => exact absurd (List.cons.inj heq).1 hd
    · rw [hall]
      rfl

theorem afterWord?_eq_none (word : String) {c : Char} {cs : List Char} (hword : word.toList = c :: cs)
    (hc : c.isDigit = false) (rest : List Char) : afterWord? word (ds ++ '\n' :: rest) = none := by
  obtain ⟨d, ds', rfl, hd⟩ := h.cons
  have hne := ne_of_test hd hc
  simp [afterWord?, hword, hne.symm]

/-- A number with a fraction has a point or an exponent. -/
theorem takeFloat_yields (rest : List Char) : (takeFloat (ds ++ '\n' :: rest)).Yields := by
  have hscaled : (takeScaled (ds ++ '\n' :: rest)).Yields := by
    unfold takeScaled
    rw [h.takeDecimal]
    exact ⟨{ ahead := '\n' :: rest }, rfl, rfl⟩
  refine Reading.Yields.inside ?_ .float
  rw [hscaled.orElse]
  unfold takeSpecial
  simp only [h.splitSign, h.afterWord?_eq_none "inf" rfl rfl,
    h.afterWord?_eq_none "nan" rfl rfl]
  exact ⟨_, rfl, rfl⟩

theorem takeInteger (hn : n < signedBound) (rest : List Char) :
    Toml.takeInteger (ds ++ '\n' :: rest) = .ok ((n : Int), '\n' :: rest) := by
  have hbounded : bounded (n : Int) = .ok (n : Int) := by
    unfold bounded
    rw [if_neg (by omega), if_neg (by omega)]
  -- No base is named: behind a zero in front there is the end of the line.
  have hbase (c : Char) (more : List Char) (heq : ds ++ '\n' :: rest = '0' :: c :: more) :
      c = '\n' := by
    obtain rfl | ⟨d, ds', rfl, hd⟩ := h.leading
    · exact (List.cons.inj (List.cons.inj heq).2).1.symm
    · exact absurd (List.cons.inj heq).1 hd
  rw [takeInteger.eq_4 _ (fun _ heq => absurd (hbase _ _ heq) (by decide))
    (fun _ heq => absurd (hbase _ _ heq) (by decide))
    (fun _ heq => absurd (hbase _ _ heq) (by decide)), h.takeDecimal]
  simp only [h.value, Option.getD_some, Bool.false_eq_true, if_false, boundedAt, hbounded]

theorem takeNumeric (hn : n < signedBound) (rest : List Char) :
    Toml.takeNumeric (ds ++ '\n' :: rest) = .ok (integer n, '\n' :: rest) := by
  unfold Toml.takeNumeric
  rw [(takeMoment_digits h.digits rest).orElse, (h.takeFloat_yields rest).orElse,
    h.takeInteger hn]
  rfl

end Numeral

/-! ## Values -/

/-- A value as it is read. -/
def Plain.value : Plain → Toml
  | .text s => .text s
  | .number n => .integer n

theorem ne_of_start {d : Char} (hc : c = '"' ∨ c = '\'' ∨ c.isDigit = true)
    (hd : d ≠ '"' ∧ d ≠ '\'' ∧ d.isDigit = false) : c ≠ d := by
  obtain rfl | rfl | hdigit := hc
  · exact hd.1.symm
  · exact hd.2.1.symm
  · exact ne_of_test hdigit hd.2.2

namespace Plain

variable {v : Plain} {w : List Char} (h : v.chars? = some w)

include h

theorem chars?_cons : ∃ c cs, w = c :: cs ∧ (c = '"' ∨ c = '\'' ∨ c.isDigit = true) := by
  cases v with
  | text s =>
    obtain ⟨c, cs, htext, hc⟩ := textChars_eq_cons s.toList
    rw [chars?, htext] at h
    exact ⟨c, cs, (Option.some.inj h).symm, hc.imp_right .inl⟩
  | number n =>
    obtain ⟨-, hw⟩ := Option.ite_none_right_eq_some.mp h
    obtain ⟨d, ds, hds, hd⟩ := (numeral_toDigits n).cons
    rw [Nat.toString_eq_ofList_toDigits, String.toList_ofList, hds] at hw
    exact ⟨d, ds, (Option.some.inj hw).symm, .inr (.inr hd)⟩

theorem takeScalar_chars (rest : List Char) :
    takeScalar (w ++ '\n' :: rest) = .ok (v.value, '\n' :: rest) := by
  cases v with
  | text s =>
    obtain ⟨c, cs, htext, hc⟩ := textChars_eq_cons s.toList
    obtain rfl : textChars s.toList = w := Option.some.inj h
    have htake : takeText (textChars s.toList ++ '\n' :: rest) = .ok (s.toList, '\n' :: rest) :=
      takeText_textChars (by simp) s.toList
    rw [htext, List.cons_append] at htake ⊢
    rw [takeScalar, if_pos hc, htake]
    exact congrArg (fun t => Except.ok (Toml.text t, '\n' :: rest)) String.ofList_toList
  | number n =>
    obtain ⟨hn, hw⟩ := Option.ite_none_right_eq_some.mp h
    rw [Nat.toString_eq_ofList_toDigits, String.toList_ofList] at hw
    obtain rfl := Option.some.inj hw
    have hnumeral := numeral_toDigits n
    have htake := hnumeral.takeNumeric hn rest
    obtain ⟨d, ds, hds, hd⟩ := hnumeral.cons
    have hquote := ne_of_test hd (b := '"') (by decide)
    have hapostrophe := ne_of_test hd (b := '\'') (by decide)
    rw [hds, List.cons_append] at htake ⊢
    rw [takeScalar, if_neg (by simp [hquote, hapostrophe]), if_pos (.inr (.inr hd)), htake]
    rfl

/-- A written value is read back, with the line end behind it. -/
theorem takeValue_chars (fuel room : Nat) (rest : List Char) :
    takeValue (fuel + 1) room (w ++ '\n' :: rest) =
      .ok ((some ⟨w ++ '\n' :: rest, '\n' :: rest⟩, v.value), '\n' :: rest) := by
  have hscalar := takeScalar_chars h rest
  obtain ⟨c, cs, rfl, hc⟩ := chars?_cons h
  have hbracket : c ≠ '[' := ne_of_start hc (by decide)
  have hbrace : c ≠ '\x7b' := ne_of_start hc (by decide)
  rw [List.cons_append] at hscalar ⊢
  unfold takeValue
  split
  · next heq => exact absurd (List.cons.inj heq).1 hbracket
  · next heq => exact absurd (List.cons.inj heq).1 hbrace
  · rw [hscalar]
    rfl

theorem skipBlanks_chars (cs : List Char) : skipBlanks (' ' :: (w ++ cs)) = w ++ cs := by
  obtain ⟨c, ds, rfl, hc⟩ := chars?_cons h
  have hblank : isBlank c = false := by
    have hspace : c ≠ ' ' := ne_of_start hc (by decide)
    have htab : c ≠ '\t' := ne_of_start hc (by decide)
    simp [isBlank, hspace, htab]
  unfold skipBlanks
  rw [List.dropWhile_cons_of_pos (by decide), List.cons_append,
    List.dropWhile_cons_of_neg (by simp [hblank])]

end Plain

end ContextIndex.Toml
