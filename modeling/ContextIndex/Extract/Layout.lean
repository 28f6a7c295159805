import ContextIndex.Text.Line

/-!
# Texts laid out

Matches are found by offsets in a text; declarations are told by lines, and blocks are scanned from a
byte of a line.  A layout of a text holds the place of every offset, so that one is looked up and not
counted again for every match.  The main statements say that a place is counted from the characters
before it, and that a piece of a layout is that piece of the text.
-/

namespace ContextIndex.Extract

/-- A place in a text: its line, and the bytes before it on that line. -/
structure Spot where
  /-- The line, from one. -/
  line : Nat
  /-- The bytes. -/
  column : Nat
deriving DecidableEq, Repr, Inhabited

/-- The beginning of a text. -/
def Spot.start : Spot := ⟨1, 0⟩

/-- The place behind one more character. -/
def Spot.after (s : Spot) (c : Char) : Spot :=
  if c = '\n' then ⟨s.line + 1, 0⟩ else ⟨s.line, s.column + c.utf8Size⟩

/-- The places before the characters of a text and at its end, given the first. -/
def Spot.along (s : Spot) : List Char → List Spot
  | [] => [s]
  | c :: cs => s :: (s.after c).along cs

/-- A place is counted from the characters before it. -/
theorem Spot.getElem?_along (s : Spot) (cs : List Char) (n : Nat) (h : n ≤ cs.length) :
    (s.along cs)[n]? = some ((cs.take n).foldl Spot.after s) := by
  induction cs generalizing s n with
  | nil =>
    obtain rfl : n = 0 := by simpa using h
    rfl
  | cons c cs ih =>
    cases n with
    | zero => rfl
    | succ n =>
      have h : n ≤ cs.length := by simpa using h
      simpa [along] using ih (s.after c) n h

/-- A text, its places and its lines. -/
structure Layout where
  /-- The characters. -/
  chars : Array Char
  /-- The places, by offset. -/
  spots : Array Spot
  /-- The lines. -/
  lines : List (List Char)

namespace Layout

/-- The layout of a text. -/
def ofText (text : List Char) : Layout where
  chars := text.toArray
  spots := (Spot.start.along text).toArray
  lines := Text.lines text

/-- The place of an offset. -/
def spotAt (t : Layout) (offset : Nat) : Spot :=
  t.spots[offset]?.getD .start

/-- A piece of the text, from one offset to another. -/
def slice (t : Layout) (start stop : Nat) : List Char :=
  (t.chars.extract start stop).toList

/-- The place of an offset in a text is counted from the characters before it. -/
theorem spotAt_ofText (text : List Char) (n : Nat) (h : n ≤ text.length) :
    (ofText text).spotAt n = (text.take n).foldl Spot.after .start := by
  simp [spotAt, ofText, Spot.getElem?_along _ _ _ h]

/-- A piece of the layout is that piece of the text. -/
theorem slice_ofText (text : List Char) (start stop : Nat) :
    (ofText text).slice start stop = (text.drop start).take (stop - start) := by
  simp [slice, ofText, List.extract]

end Layout

end ContextIndex.Extract
