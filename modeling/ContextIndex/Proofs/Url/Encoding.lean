import ContextIndex.Proofs.Text.ByteOrder
import ContextIndex.Url.Encoding
import Mathlib.Tactic.SplitIfs

/-!
# Encoded texts

Where a part of an address does not keep the percent sign, its escapes can be told from what it keeps,
so the bytes of a text can be read back from its encoding (`unescape_encode`).  A pair of a query is
read back in the same way once its plus signs are blanks again (`unescape_formText`).  As bytes tell
the characters, different texts have different encodings.
-/

namespace ContextIndex

namespace Text

/-- Different texts have different bytes. -/
theorem utf8_injective : Function.Injective utf8 := by
  intro cs ds h
  obtain hle | hle := List.le_total cs ds
  · obtain hlt | heq := List.le_iff_lt_or_eq.mp hle
    · exact absurd (h ▸ utf8_lt_of_lt hlt) (List.lt_irrefl _)
    · exact heq
  · obtain hlt | heq := List.le_iff_lt_or_eq.mp hle
    · exact absurd (h ▸ utf8_lt_of_lt hlt) (List.lt_irrefl _)
    · exact heq.symm

theorem digit?_capitalHexDigit {n : Nat} (h : n < 16) : digit? 16 (capitalHexDigit n) = some n := by
  revert n
  decide

/-- Two digits of a byte write it. -/
theorem numeral?_byte (b : UInt8) : numeral? 16
    [capitalHexDigit (b.toNat / 16), capitalHexDigit (b.toNat % 16)] = some b.toNat := by
  have hb : b.toNat < 256 := b.toNat_lt
  have hhigh := digit?_capitalHexDigit (show b.toNat / 16 < 16 by omega)
  have hlow := digit?_capitalHexDigit (show b.toNat % 16 < 16 by omega)
  simp only [numeral?, numeralFrom?, hhigh, hlow, Option.bind_eq_bind, Option.bind_some]
  exact congrArg some (by omega)

end Text

namespace Url

/-! ## Reading back -/

theorem unescape_escapeByte (b : UInt8) (rest : List Char) :
    unescape (escapeByte b ++ rest) = b :: unescape rest := by
  simp only [escapeByte, List.cons_append, List.nil_append, unescape, Text.numeral?_byte,
    UInt8.ofNat_toNat]

theorem unescape_escapeBytes (bs : List UInt8) (rest : List Char) :
    unescape (bs.flatMap escapeByte ++ rest) = bs ++ unescape rest := by
  induction bs with
  | nil => rfl
  | cons b bs ih =>
    rw [List.flatMap_cons, List.append_assoc, unescape_escapeByte, ih, List.cons_append]

theorem unescape_cons {c : Char} (h : c ≠ '%') (cs : List Char) :
    unescape (c :: cs) = String.utf8EncodeChar c ++ unescape cs := by
  rw [unescape.eq_3]
  rintro a b cs rfl
  exact absurd rfl h

/-- The bytes of a text are read back from its encoding. -/
theorem unescape_encode {keeps : Char → Bool} (h : keeps '%' = false) (cs : List Char) :
    unescape (encode keeps cs) = Text.utf8 cs := by
  induction cs with
  | nil => rfl
  | cons c cs ih =>
    rw [encode, List.flatMap_cons, Text.utf8_cons, ← ih]
    by_cases hc : keeps c = true
    · have hne : c ≠ '%' := by
        rintro rfl
        rw [h] at hc
        cases hc
      rw [if_pos hc]
      exact unescape_cons hne _
    · rw [if_neg hc]
      exact unescape_escapeBytes _ _

theorem encode_injective {keeps : Char → Bool} (h : keeps '%' = false) :
    Function.Injective (encode keeps) := by
  intro cs ds heq
  apply Text.utf8_injective
  rw [← unescape_encode h, heq, unescape_encode h]

/-! ## Pairs of a query -/

/-- A blank for a plus sign. -/
def blankForPlus (c : Char) : Char :=
  if c = '+' then ' ' else c

theorem blankForPlus_of_ne {c : Char} (h : c ≠ '+') : blankForPlus c = c :=
  if_neg h

theorem capitalHexDigit_ne_plus {n : Nat} (h : n < 16) : Text.capitalHexDigit n ≠ '+' := by
  revert n
  decide

/-- No escape has a plus sign. -/
theorem map_blankForPlus_escapeByte (b : UInt8) :
    (escapeByte b).map blankForPlus = escapeByte b := by
  have hb : b.toNat < 256 := b.toNat_lt
  have hhigh := capitalHexDigit_ne_plus (show b.toNat / 16 < 16 by omega)
  have hlow := capitalHexDigit_ne_plus (show b.toNat % 16 < 16 by omega)
  simp only [escapeByte, List.map_cons, List.map_nil, blankForPlus_of_ne hhigh,
    blankForPlus_of_ne hlow]
  rfl

theorem map_blankForPlus_escapeChar (c : Char) :
    (escapeChar c).map blankForPlus = escapeChar c := by
  simp only [escapeChar, List.map_flatMap, map_blankForPlus_escapeByte]

/-- The bytes of a name or a value are read back from a pair. -/
theorem unescape_formText (cs : List Char) :
    unescape ((formText cs).map blankForPlus) = Text.utf8 cs := by
  induction cs with
  | nil => rfl
  | cons c cs ih =>
    rw [formText, List.flatMap_cons, List.map_append, Text.utf8_cons, ← ih]
    by_cases hblank : c = ' '
    · subst hblank
      exact unescape_cons (by decide) _
    · rw [if_neg hblank]
      by_cases hc : inForm c = true
      · have hplus : c ≠ '+' := by
          rintro rfl
          exact absurd hc (by decide)
        have hpercent : c ≠ '%' := by
          rintro rfl
          exact absurd hc (by decide)
        rw [if_pos hc, List.map_singleton, blankForPlus_of_ne hplus]
        exact unescape_cons hpercent _
      · rw [if_neg hc, map_blankForPlus_escapeChar]
        exact unescape_escapeBytes _ _

theorem formText_injective : Function.Injective formText := by
  intro cs ds heq
  apply Text.utf8_injective
  rw [← unescape_formText, heq, unescape_formText]

/-! ## What an encoding holds -/

/-- The characters of an escape. -/
def inEscape (c : Char) : Bool :=
  c == '%' || (Text.hexDigit? c).isSome

theorem inEscape_capitalHexDigit {n : Nat} (h : n < 16) :
    inEscape (Text.capitalHexDigit n) = true := by
  revert n
  decide

theorem inEscape_of_mem {b : UInt8} {c : Char} (h : c ∈ escapeByte b) : inEscape c = true := by
  have hb : b.toNat < 256 := b.toNat_lt
  simp only [escapeByte, List.mem_cons, List.not_mem_nil, or_false] at h
  obtain rfl | rfl | rfl := h
  · rfl
  · exact inEscape_capitalHexDigit (by omega)
  · exact inEscape_capitalHexDigit (by omega)

/-- An encoding holds characters that are kept, and escapes. -/
theorem keeps_of_mem_encode {keeps : Char → Bool} {cs : List Char} {c : Char}
    (h : c ∈ encode keeps cs) : keeps c = true ∨ inEscape c = true := by
  obtain ⟨d, -, hd⟩ := List.mem_flatMap.mp h
  by_cases hkeeps : keeps d = true
  · rw [if_pos hkeeps, List.mem_singleton] at hd
    exact .inl (hd ▸ hkeeps)
  · rw [if_neg hkeeps] at hd
    obtain ⟨b, -, hb⟩ := List.mem_flatMap.mp hd
    exact .inr (inEscape_of_mem hb)

end Url

end ContextIndex
