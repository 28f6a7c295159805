import Mathlib
import ContextIndex.Proofs.Json.Tokens
import ContextIndex.Proofs.Lists
import ContextIndex.Text.CharClass

/-!
# Quotes and backticks in JSON

A backtick stands only in a string of a JSON text, and a string has no bare line feed.  Hence behind
every backtick there comes a quote before the line ends (`Sheltered`), and a text in which a line
ends first is no JSON (`parseChars?_eq_none`).

Read character by character, a JSON text is in a string or not, and outside of strings few letters
stand (`Lexical`).  A text that is read as JSON from inside of a string takes the quotes the other
way round: its strings are what stands between those of the text around it, so they hold no words
but those that may stand there (`bare_of_parseChars?`).
-/

namespace ContextIndex.Json

variable {cs ds rest : List Char} {ss : List String}

/-! ## What tokens are made of -/

theorem eq_of_mem_literals {w : String} (hw : w ∈ literals) :
    w = "null" ∨ w = "true" ∨ w = "false" := by
  simpa [literals] using hw

theorem ne_of_escape? {c d e : Char} (h : escape? e = some c) (hd : escape? d = none) : e ≠ d := by
  rintro rfl
  rw [hd] at h
  cases h

theorem not_mem_of_hexUnit? {a b c d x : Char} {n : Nat} (h : hexUnit? a b c d = some n)
    (hx : Text.hexDigit? x = none) : x ∉ [a, b, c, d] := by
  simp only [hexUnit?, Option.bind_eq_bind, Option.bind_eq_some_iff] at h
  obtain ⟨na, ha, nb, hb, nc, hc, nd, hd, -⟩ := h
  intro hmem
  simp only [List.mem_cons, List.not_mem_nil, or_false] at hmem
  obtain rfl | rfl | rfl | rfl := hmem <;> simp_all

/-- A string goes on to its closing quote, and it has no bare line feed. -/
theorem Units.split {us : List Unit16} (h : Units cs us rest) :
    ∃ body, cs = body ++ '"' :: rest ∧ '\n' ∉ body := by
  induction h with
  | close => exact ⟨[], rfl, List.not_mem_nil⟩
  | @unicode a b c d n cs rest us hn _ ih =>
    obtain ⟨body, rfl, hbody⟩ := ih
    have hdigits : '\n' ∉ [a, b, c, d] := not_mem_of_hexUnit? hn (by decide)
    exact ⟨'\\' :: 'u' :: ([a, b, c, d] ++ body), rfl, by simp_all⟩
  | @escape e c cs rest us hc _ ih =>
    obtain ⟨body, rfl, hbody⟩ := ih
    have he : e ≠ '\n' := ne_of_escape? hc (by decide)
    exact ⟨'\\' :: e :: body, rfl, by simp [he.symm, hbody]⟩
  | @plain c cs rest us _ _ hcontrol _ ih =>
    obtain ⟨body, rfl, hbody⟩ := ih
    have hc : c ≠ '\n' := by
      rintro rfl
      exact hcontrol (by decide)
    exact ⟨c :: body, rfl, by simp [hc.symm, hbody]⟩

/-! ## Backticks -/

/-- Behind every backtick there comes a quote, and no line feed before it. -/
def Sheltered (cs : List Char) : Prop :=
  ∀ u v, cs = u ++ '\x60' :: v → ∃ w x, v = w ++ '"' :: x ∧ '\n' ∉ w

theorem Sheltered.append {u v : List Char} (hu : '\x60' ∉ u) (hv : Sheltered v) :
    Sheltered (u ++ v) := by
  intro a b h
  obtain ⟨as, rfl, hvs⟩ | ⟨bs, rfl, hbs⟩ := List.append_eq_append_iff.mp h
  · exact hv as b hvs
  · cases bs with
    | nil => exact hv [] b hbs.symm
    | cons c bs =>
      obtain ⟨rfl, -⟩ := List.cons.inj hbs
      exact absurd (List.mem_append_right a List.mem_cons_self) hu

/-- A string without a bare line feed shelters what it holds. -/
theorem Sheltered.string {body : List Char} (hbody : '\n' ∉ body) (h : Sheltered rest) :
    Sheltered (body ++ '"' :: rest) := by
  intro a b hab
  obtain ⟨as, rfl, has⟩ | ⟨bs, rfl, hbs⟩ := List.append_eq_append_iff.mp hab
  · cases as with
    | nil => exact absurd (List.cons.inj has).1 (by decide)
    | cons c as => exact h as b (List.cons.inj has).2
  · cases bs with
    | nil => exact absurd (List.cons.inj hbs).1 (by decide)
    | cons c bs =>
      obtain ⟨-, rfl⟩ := List.cons.inj hbs
      exact ⟨bs, rest, rfl, fun h => hbody (List.mem_append_right a (List.mem_cons_of_mem c h))⟩

theorem Tokens.sheltered (h : Tokens cs ss rest) (hrest : Sheltered rest) : Sheltered cs := by
  induction h with
  | done => exact hrest
  | @mark c cs rest ss hc _ ih =>
    exact Sheltered.append (u := [c]) (by simpa using (ne_of_test hc (by decide)).symm) (ih hrest)
  | word hw _ ih =>
    refine Sheltered.append ?_ (ih hrest)
    obtain rfl | rfl | rfl := eq_of_mem_literals hw <;> decide
  | string hs _ ih =>
    obtain ⟨body, rfl, hbody⟩ := hs.split
    exact Sheltered.append (u := ['"']) (by decide) (Sheltered.string hbody (ih hrest))

/-- A text in which a line ends behind a backtick, and no quote stands in between, is no JSON. -/
theorem parseChars?_eq_none {u v w : List Char} (hv : '"' ∉ v) :
    parseChars? (u ++ '\x60' :: (v ++ '\n' :: w)) = none := by
  refine Option.eq_none_iff_forall_ne_some.mpr fun x hx => ?_
  obtain ⟨ss, htokens, -⟩ := tokens_of_parseChars? hx
  obtain ⟨a, b, hab, ha⟩ := htokens.sheltered (by simp [Sheltered]) u _ rfl
  exact (mem_or_mem_of_append_cons (by decide) hab).elim ha hv

/-! ## Inside and outside of strings -/

/-- Where a text is read: outside of strings, in a string, or behind a backslash in one. -/
inductive Mode
  | outside
  | inside
  | escaped
deriving DecidableEq, Repr

/-- How it goes on behind a character. -/
def Mode.after : Mode → Char → Mode
  | outside, c => if c = '"' then inside else outside
  | inside, c => if c = '"' then outside else if c = '\\' then escaped else inside
  | escaped, _ => inside

/-- A character that may stand outside of strings: white space, a mark, or a letter of a word. -/
def isBare (c : Char) : Bool :=
  Text.isSpace c || isMark c || ['a', 'f', 'l', 'n', 'r', 's', 't', 'u'].contains c

/-- Whether a character, and the one behind it, may stand where a text is read. -/
def Mode.Allows : Mode → Char → Option Char → Prop
  | outside, c, next => c = '"' ∨ isBare c = true ∧ ¬(c = 'f' ∧ next = some 'n')
  | inside, _, _ => True
  | escaped, c, _ => c ≠ '\x60'

/-- Every character of a text may stand where it stands. -/
def Lexical : Mode → List Char → Prop
  | _, [] => True
  | m, c :: cs => m.Allows c cs.head? ∧ Lexical (m.after c) cs

section Modes

variable {m : Mode} {c : Char} {u v : List Char}

theorem lexical_cons : Lexical m (c :: cs) ↔ m.Allows c cs.head? ∧ Lexical (m.after c) cs :=
  Iff.rfl

@[simp] theorem lexical_nil : Lexical m [] := trivial

theorem lexical_inside_cons (hquote : c ≠ '"') (hbackslash : c ≠ '\\') :
    Lexical .inside (c :: cs) ↔ Lexical .inside cs := by
  rw [lexical_cons, Mode.after, if_neg hquote, if_neg hbackslash]
  exact and_iff_right trivial

@[simp] theorem lexical_inside_quote : Lexical .inside ('"' :: cs) ↔ Lexical .outside cs :=
  and_iff_right trivial

@[simp] theorem lexical_escape {e : Char} :
    Lexical .inside ('\\' :: e :: cs) ↔ e ≠ '\x60' ∧ Lexical .inside cs :=
  and_iff_right trivial

@[simp] theorem lexical_outside_quote : Lexical .outside ('"' :: cs) ↔ Lexical .inside cs :=
  and_iff_right (.inl rfl)

theorem lexical_outside_cons (hquote : c ≠ '"') : Lexical .outside (c :: cs) ↔
    (isBare c = true ∧ ¬(c = 'f' ∧ cs.head? = some 'n')) ∧ Lexical .outside cs := by
  rw [lexical_cons, Mode.after, if_neg hquote, Mode.Allows, or_iff_right hquote]

theorem Mode.Allows.mono {next : Option Char} (h : m.Allows c next) : m.Allows c none := by
  cases m with
  | outside => exact h.imp_right fun ⟨hbare, _⟩ => ⟨hbare, nofun⟩
  | inside => trivial
  | escaped => exact h

theorem lexical_of_append (h : Lexical m (u ++ v)) : Lexical m u := by
  induction u generalizing m with
  | nil => trivial
  | cons c u ih =>
    refine ⟨?_, ih h.2⟩
    cases u with
    | nil => exact h.1.mono
    | cons d u => exact h.1

theorem lexical_behind (h : Lexical m (u ++ v)) : Lexical (u.foldl Mode.after m) v := by
  induction u generalizing m with
  | nil => exact h
  | cons c u ih => exact ih h.2

/-- Where a backtick stands, the text is in a string, and so it is behind that. -/
theorem lexical_behind_backtick (h : Lexical m (u ++ '\x60' :: v)) : Lexical .inside v := by
  have hmode := lexical_behind h
  cases hm : u.foldl Mode.after m with
  | outside =>
    rw [hm, lexical_outside_cons (by decide)] at hmode
    exact absurd hmode.1.1 (by decide)
  | inside =>
    rw [hm, lexical_inside_cons (by decide) (by decide)] at hmode
    exact hmode
  | escaped =>
    rw [hm] at hmode
    exact absurd rfl hmode.1

/-- In a string the text goes on so behind anything but a quote or a backslash. -/
theorem lexical_inside_append (hquote : '"' ∉ u) (hbackslash : '\\' ∉ u) :
    Lexical .inside (u ++ v) ↔ Lexical .inside v := by
  induction u with
  | nil => rfl
  | cons c u ih =>
    rw [List.mem_cons, not_or] at hquote hbackslash
    rw [List.cons_append, lexical_inside_cons (Ne.symm hquote.1) (Ne.symm hbackslash.1)]
    exact ih hquote.2 hbackslash.2

/-- Outside it goes on so behind anything but a quote. -/
theorem lexical_outside_of_append (hquote : '"' ∉ u) (h : Lexical .outside (u ++ v)) :
    Lexical .outside v := by
  induction u with
  | nil => exact h
  | cons c u ih =>
    rw [List.mem_cons, not_or] at hquote
    rw [List.cons_append, lexical_outside_cons (Ne.symm hquote.1)] at h
    exact ih hquote.2 h.2

/-! ## A text in its own quotes -/

theorem Units.lexical {us : List Unit16} (h : Units cs us rest)
    (hrest : Lexical .outside (rest ++ v)) : Lexical .inside (cs ++ v) := by
  induction h with
  | close => exact lexical_inside_quote.mpr hrest
  | @unicode a b c d n cs rest us hn _ ih =>
    refine lexical_escape.mpr ⟨by decide, ?_⟩
    exact (lexical_inside_append (u := [a, b, c, d]) (not_mem_of_hexUnit? hn (by decide))
      (not_mem_of_hexUnit? hn (by decide))).mpr (ih hrest)
  | escape hc _ ih => exact lexical_escape.mpr ⟨ne_of_escape? hc (by decide), ih hrest⟩
  | plain hquote hbackslash _ _ ih => exact (lexical_inside_cons hquote hbackslash).mpr (ih hrest)

theorem isBare_of_isMark (hc : isMark c = true) : isBare c = true := by
  simp [isBare, hc]

/-- A row of tokens is read outside of strings, but for what its strings hold. -/
theorem Tokens.lexical (h : Tokens cs ss rest) (hrest : Lexical .outside (rest ++ v)) :
    Lexical .outside (cs ++ v) := by
  induction h with
  | done => exact hrest
  | mark hc _ ih =>
    refine (lexical_outside_cons (ne_of_test hc (by decide))).mpr ⟨⟨isBare_of_isMark hc, ?_⟩,
      ih hrest⟩
    exact fun hf => ne_of_test hc (by decide) hf.1
  | word hw _ ih =>
    have he : isMark 'e' = true := by decide
    obtain rfl | rfl | rfl := eq_of_mem_literals hw <;>
      simp [lexical_outside_cons, he, isBare, ih hrest]
  | string hs _ ih => exact lexical_outside_quote.mpr (hs.lexical (ih hrest))

theorem lexical_of_isSpace {m : List Char} (hm : ∀ c ∈ m, Text.isSpace c = true)
    (hv : Lexical .outside v) : Lexical .outside (m ++ v) := by
  induction m with
  | nil => exact hv
  | cons c m ih =>
    obtain ⟨hc, hm⟩ := List.forall_mem_cons.mp hm
    have hne {d : Char} (hd : Text.isSpace d = false) : c ≠ d := by
      rintro rfl
      rw [hc] at hd
      cases hd
    exact (lexical_outside_cons (hne (by decide))).mpr
      ⟨⟨by simp [isBare, hc], fun hf => hne (by decide) hf.1⟩, ih hm⟩

/-- JSON with white space around it is read outside of strings, but for what its strings hold. -/
theorem lexical_of_parseChars? {x : Json} (h : parseChars? cs = some x)
    (hu : ∀ c ∈ u, Text.isSpace c = true) (hv : ∀ c ∈ v, Text.isSpace c = true) :
    Lexical .outside (u ++ (cs ++ v)) := by
  obtain ⟨ss, htokens, -⟩ := tokens_of_parseChars? h
  have hend : Lexical .outside (v ++ []) := lexical_of_isSpace hv lexical_nil
  rw [List.append_nil] at hend
  exact lexical_of_isSpace hu (htokens.lexical hend)

/-! ## A text in the quotes of another -/

/-- A string that may stand outside of strings. -/
def Bare (s : String) : Prop :=
  Lexical .outside s.toList ∧ '"' ∉ s.toList

theorem Bare.isBare {s : String} (h : Bare s) : ∀ c ∈ s.toList, isBare c = true := by
  obtain ⟨hlexical, hquote⟩ := h
  generalize s.toList = cs at hlexical hquote ⊢
  induction cs with
  | nil => exact nofun
  | cons c cs ih =>
    rw [List.mem_cons, not_or] at hquote
    obtain ⟨⟨hc, -⟩, hcs⟩ := (lexical_outside_cons (Ne.symm hquote.1)).mp hlexical
    exact List.forall_mem_cons.mpr ⟨hc, ih hcs hquote.2⟩

/-- From outside, a string goes on to the next quote, and it holds what stands there. -/
theorem Units.bare {us : List Unit16} (h : Units cs us rest) (hcs : Lexical .outside cs) :
    ∃ body, cs = body ++ '"' :: rest ∧ us = body.map .char ∧ '"' ∉ body := by
  induction h with
  | close => exact ⟨[], rfl, rfl, List.not_mem_nil⟩
  | unicode =>
    rw [lexical_outside_cons (by decide)] at hcs
    exact absurd hcs.1.1 (by decide)
  | escape =>
    rw [lexical_outside_cons (by decide)] at hcs
    exact absurd hcs.1.1 (by decide)
  | @plain c cs rest us hquote _ _ _ ih =>
    rw [lexical_outside_cons hquote] at hcs
    obtain ⟨body, rfl, rfl, hbody⟩ := ih hcs.2
    exact ⟨c :: body, rfl, rfl, by simp [hquote.symm, hbody]⟩

theorem textOf?_map_char (body : List Char) : textOf? (body.map .char) = some body := by
  induction body with
  | nil => rfl
  | cons c body ih => rw [List.map_cons, textOf?, ih, Option.map_some]

/-- A row of tokens that is read from inside of a string has its strings outside. -/
theorem Tokens.bare (h : Tokens cs ss rest) (hcs : Lexical .inside cs) :
    Lexical .inside rest ∧ ∀ s ∈ ss, Bare s := by
  induction h with
  | done => exact ⟨hcs, nofun⟩
  | mark hc _ ih =>
    exact ih ((lexical_inside_cons (ne_of_test hc (by decide)) (ne_of_test hc (by decide))).mp hcs)
  | word hw _ ih =>
    refine ih ((lexical_inside_append ?_ ?_).mp hcs)
    · obtain rfl | rfl | rfl := eq_of_mem_literals hw <;> decide
    · obtain rfl | rfl | rfl := eq_of_mem_literals hw <;> decide
  | string hs _ ih =>
    rw [lexical_inside_quote] at hcs
    obtain ⟨body, rfl, rfl, hbody⟩ := hs.bare hcs
    obtain ⟨hrest, hss⟩ := ih (lexical_outside_quote.mp (lexical_outside_of_append hbody hcs))
    refine ⟨hrest, fun s hs => ?_⟩
    rw [textOf?_map_char, Option.map_some, Option.toList_some, List.singleton_append,
      List.mem_cons] at hs
    obtain rfl | hs := hs
    · rw [Bare, String.toList_ofList]
      exact ⟨lexical_of_append hcs, hbody⟩
    · exact hss s hs

/-- A text that is JSON inside of a string has its strings outside. -/
theorem bare_of_parseChars? {v : Json} (h : parseChars? cs = some v) (hcs : Lexical .inside cs) :
    ∀ s, Within s v → Bare s := by
  obtain ⟨ss, htokens, hin⟩ := tokens_of_parseChars? h
  exact fun s hs => (htokens.bare hcs).2 s (hin s hs)

end Modes

end ContextIndex.Json
