/-!
# UTF-8

Characters as bytes, and bytes as characters.  Not every sequence of bytes comes from characters: the
reader puts the replacement character in the place of each longest piece that is the beginning of a
character and of each byte that is none.
-/

namespace ContextIndex.Text

/-- The bytes of a text. -/
def utf8 (cs : List Char) : List UInt8 :=
  cs.flatMap String.utf8EncodeChar

/-- The character that stands for bytes that are none. -/
def replacement : Char := '\ufffd'

/-- A character of which some bytes have been read. -/
structure Started where
  /-- The bits read so far. -/
  bits : Nat
  /-- The number of bytes to come, less one. -/
  more : Nat
  /-- The least value of the next byte. -/
  least : Nat
  /-- The greatest value of the next byte. -/
  most : Nat
deriving DecidableEq, Repr

/-- What the first byte of a character says about it, if it has several.  The bounds of the next
byte keep out what has a shorter form, halves of a pair, and numbers beyond the last character. -/
def Started.ofByte? (b : Nat) : Option Started :=
  if 0xC2 ≤ b ∧ b ≤ 0xDF then some ⟨b - 0xC0, 0, 0x80, 0xBF⟩
  else if b = 0xE0 then some ⟨0, 1, 0xA0, 0xBF⟩
  else if b = 0xED then some ⟨0xD, 1, 0x80, 0x9F⟩
  else if 0xE1 ≤ b ∧ b ≤ 0xEF then some ⟨b - 0xE0, 1, 0x80, 0xBF⟩
  else if b = 0xF0 then some ⟨0, 2, 0x90, 0xBF⟩
  else if 0xF1 ≤ b ∧ b ≤ 0xF3 then some ⟨b - 0xF0, 2, 0x80, 0xBF⟩
  else if b = 0xF4 then some ⟨4, 2, 0x80, 0x8F⟩
  else none

/-- The characters of bytes, after the start of a character. -/
def fromUtf8After : Option Started → List UInt8 → List Char
  | none, [] => []
  | some _, [] => [replacement]
  | start, b :: bs =>
    let n := b.toNat
    let fresh : List Char :=
      if n < 0x80 then Char.ofNat n :: fromUtf8After none bs
      else match Started.ofByte? n with
        | some s => fromUtf8After (some s) bs
        | none => replacement :: fromUtf8After none bs
    match start with
    | none => fresh
    | some s =>
      if s.least ≤ n ∧ n ≤ s.most then
        let bits := s.bits * 64 + (n - 0x80)
        match s.more with
        | 0 => Char.ofNat bits :: fromUtf8After none bs
        | more + 1 => fromUtf8After (some ⟨bits, more, 0x80, 0xBF⟩) bs
      else replacement :: fresh

/-- The characters of bytes. -/
def fromUtf8 (bytes : List UInt8) : List Char :=
  fromUtf8After none bytes

example : fromUtf8 (utf8 "aé日😀".toList) = "aé日😀".toList := by decide +kernel
example : fromUtf8 [0xF0, 0x9F, 0x41, 0xC0, 0xAF] = "\ufffdA\ufffd\ufffd".toList := by
  decide +kernel

end ContextIndex.Text
