import ContextIndex.Text.Utf8
import Mathlib.Tactic.SplitIfs

/-!
# The order of bytes

Texts can be ordered by their characters or by the bytes of these, and it is the same order
(`utf8_lt_utf8`).  A character of fewer bytes starts with a smaller byte, and among characters of as
many bytes the higher bits come first, so the first byte in which two characters differ tells which
one is the smaller (`utf8EncodeChar_lt`).
-/

namespace ContextIndex.Text

/-- Bytes are in order if the first ones are, or if these are equal and the rest is. -/
theorem ofNat_cons_lt {m n : Nat} (hn : n < 256) (h : m ≤ n) {rest rest' : List UInt8}
    (hrest : m = n → rest < rest') : UInt8.ofNat m :: rest < UInt8.ofNat n :: rest' := by
  obtain hlt | rfl := Nat.lt_or_eq_of_le h
  · refine List.cons_lt_cons_iff.mpr (.inl (UInt8.lt_iff_toNat_lt.mpr ?_))
    rwa [UInt8.toNat_ofNat', UInt8.toNat_ofNat', Nat.mod_eq_of_lt (Nat.lt_trans hlt hn),
      Nat.mod_eq_of_lt hn]
  · exact List.cons_lt_cons_iff.mpr (.inr ⟨rfl, hrest rfl⟩)

/-- The bytes of a smaller character come first, whatever stands behind them. -/
theorem utf8EncodeChar_lt {c d : Char} (h : c < d) (rest rest' : List UInt8) :
    String.utf8EncodeChar c ++ rest < String.utf8EncodeChar d ++ rest' := by
  have hlt : c.val.toNat < d.val.toNat := h
  have hd : d.val.toNat < 0x110000 := by
    have hvalid := d.valid
    simp only [UInt32.isValidChar, Nat.isValidChar] at hvalid
    omega
  unfold String.utf8EncodeChar
  generalize c.val.toNat = m at *
  generalize d.val.toNat = n at *
  dsimp only
  -- Of the four lengths that either character can have, the first is not the longer one.  Byte by
  -- byte, the first character stays behind, and if it never does they are one character.
  split_ifs <;> repeat' first | omega | refine ofNat_cons_lt (by omega) (by omega) fun heq => ?_

theorem utf8EncodeChar_ne_nil (c : Char) : String.utf8EncodeChar c ≠ [] := by
  unfold String.utf8EncodeChar
  dsimp only
  split_ifs <;> exact List.cons_ne_nil _ _

theorem utf8_cons (c : Char) (cs : List Char) :
    utf8 (c :: cs) = String.utf8EncodeChar c ++ utf8 cs :=
  List.flatMap_cons

theorem utf8_lt_of_lt {cs ds : List Char} (h : cs < ds) : utf8 cs < utf8 ds := by
  induction cs generalizing ds with
  | nil =>
    cases ds with
    | nil => exact absurd h (List.lt_irrefl [])
    | cons d ds =>
      obtain ⟨b, bs, hb⟩ := List.exists_cons_of_ne_nil (utf8EncodeChar_ne_nil d)
      rw [utf8_cons, hb]
      exact List.nil_lt_cons b _
  | cons c cs ih =>
    cases ds with
    | nil => exact absurd h (List.not_lt_nil _)
    | cons d ds =>
      rw [utf8_cons, utf8_cons]
      obtain hlt | ⟨rfl, hrest⟩ := List.cons_lt_cons_iff.mp h
      · exact utf8EncodeChar_lt hlt _ _
      · exact List.append_left_lt (ih hrest)

/-- The bytes of texts are in the order of their characters. -/
theorem utf8_lt_utf8 {cs ds : List Char} : utf8 cs < utf8 ds ↔ cs < ds := by
  refine ⟨fun h => Decidable.by_contra fun hnot => ?_, utf8_lt_of_lt⟩
  obtain hlt | rfl := List.le_iff_lt_or_eq.mp (List.not_lt.mp hnot)
  · exact List.lt_asymm (utf8_lt_of_lt hlt) h
  · exact List.lt_irrefl _ h

end ContextIndex.Text
