/-!
# Labels of letters, digits and hyphens

A label with any characters is written in few of them: first those it has of ASCII, then a hyphen,
and then where each other character goes.  Characters are put in by increasing code point, and among
equal ones from left to right.  The distance from one to the next, counted over code points and
places, is written as a number with digits of several bases, the lowest digit first; the bases follow
the sizes of the numbers before.
-/

namespace ContextIndex.Domain

/-! ## Digits -/

/-- How many digits there are. -/
def digitCount : Nat := 36

/-- The digit of a value. -/
def digitOf (n : Nat) : Char :=
  if n < 26 then Char.ofNat ('a'.toNat + n) else Char.ofNat ('0'.toNat + (n - 26))

/-- The value of a digit. -/
def digitValue? (c : Char) : Option Nat :=
  if c.isLower then some (c.toNat - 'a'.toNat)
  else if c.isUpper then some (c.toNat - 'A'.toNat)
  else if c.isDigit then some (c.toNat - '0'.toNat + 26)
  else none

/-- The least digit that does not end a number, at a place, counted from one, and with a bias. -/
def threshold (place bias : Nat) : Nat :=
  max 1 (min 26 (digitCount * place - bias))

/-- The bias when nothing has been put in. -/
def firstBias : Nat := 72

/-- A number that has been made smaller, and how often. -/
def shrink : Nat → Nat → Nat × Nat
  | 0, n => (n, 0)
  | fuel + 1, n =>
    if 455 < n then
      let (least, times) := shrink fuel (n / 35)
      (least, times + 1)
    else (n, 0)

/-- The bias after a distance to a place in a label of some length. -/
def nextBias (distance length : Nat) (first : Bool) : Nat :=
  let scaled := if first then distance / 700 else distance / 2
  let scaled := scaled + scaled / length
  let (least, times) := shrink scaled scaled
  digitCount * times + digitCount * least / (least + 38)

/-! ## Writing -/

/-- The digits of a number from a place on. -/
def numberDigits (bias : Nat) : Nat → Nat → Nat → List Char
  | 0, _, _ => []
  | fuel + 1, place, n =>
    let t := threshold place bias
    if n < t then [digitOf n]
    else digitOf (t + (n - t) % (digitCount - t)) ::
      numberDigits bias fuel (place + 1) ((n - t) / (digitCount - t))

/-- The digits of a number. -/
def numberText (bias n : Nat) : List Char :=
  numberDigits bias (n + 1) 1 n

/-- What has been written of a label. -/
structure Writing where
  /-- The digits. -/
  text : List Char
  /-- The distance from the last character put in. -/
  distance : Nat
  /-- The bias. -/
  bias : Nat
  /-- How many characters have been put in. -/
  count : Nat
  /-- Whether none but those of ASCII have been. -/
  fresh : Bool
deriving DecidableEq, Repr

/-- A step along a label: a character below the code point is passed, and one at it is put in. -/
def Writing.step (n : Nat) (w : Writing) (c : Char) : Writing :=
  if c.toNat < n then { w with distance := w.distance + 1 }
  else if c.toNat = n then
    { text := w.text ++ numberText w.bias w.distance
      distance := 0
      bias := nextBias w.distance (w.count + 1) w.fresh
      count := w.count + 1
      fresh := false }
  else w

/-- What has been written after the characters at one code point, `before` being the next one after
those put in already. -/
def Writing.putAll (label : List Char) : Nat → Writing → List Nat → Writing
  | _, w, [] => w
  | before, w, n :: ns =>
    let w := { w with distance := w.distance + (n - before) * (w.count + 1) }
    let w := label.foldl (Writing.step n) w
    putAll label (n + 1) { w with distance := w.distance + 1 } ns

/-- A number in an increasing list. -/
def insertCode (n : Nat) : List Nat → List Nat
  | [] => [n]
  | m :: ms => if n < m then n :: m :: ms else if n = m then m :: ms else m :: insertCode n ms

/-- A label in letters, digits and hyphens. -/
def encodeLabel (label : List Char) : List Char :=
  let basic := label.filter fun c => decide (c.toNat < 0x80)
  let codes := ((label.map Char.toNat).filter (0x80 ≤ ·)).foldr insertCode []
  let start : Writing := ⟨if basic.isEmpty then [] else basic ++ ['-'], 0, firstBias, basic.length,
    true⟩
  (start.putAll label 0x80 codes).text

/-! ## Reading -/

/-- What has been read of a label. -/
structure Draft where
  /-- The label so far. -/
  label : List Char
  /-- The code point of the last character put in. -/
  code : Nat
  /-- The place after it. -/
  place : Nat
  /-- The bias. -/
  bias : Nat
  /-- Whether no character has been put in. -/
  fresh : Bool
deriving DecidableEq, Repr

/-- The largest number that is read. -/
def maxDistance : Nat := 4294967295

/-- The label with a character at a distance from the last one. -/
def Draft.put? (d : Draft) (distance : Nat) : Option Draft :=
  let length := d.label.length + 1
  let total := d.place + distance
  let code := d.code + total / length
  let place := total % length
  if total ≤ maxDistance ∧ Nat.isValidChar code then
    some ⟨d.label.insertIdx place (Char.ofNat code), code, place + 1,
      nextBias distance length d.fresh, false⟩
  else none

/-- The label with what digits put in; `number`, `weight` and `digit` tell how far a number has been
read. -/
def Draft.read? (d : Draft) (number weight digit : Nat) : List Char → Option Draft
  | [] => if digit = 1 then some d else none
  | c :: cs =>
    match digitValue? c with
    | none => none
    | some v =>
      let number := number + v * weight
      let t := threshold digit d.bias
      if maxDistance < number then none
      else if v < t then (d.put? number).bind fun d => d.read? 0 1 1 cs
      else d.read? number (weight * (digitCount - t)) (digit + 1) cs

/-- A text before and after its last hyphen. -/
def splitLastHyphen (cs : List Char) : List Char × List Char :=
  match cs.reverse.span (· ≠ '-') with
  | (back, []) => ([], back.reverse)
  | (back, _ :: front) => (front.reverse, back.reverse)

/-- The label that letters, digits and hyphens write. -/
def decodeLabel? (cs : List Char) : Option (List Char) :=
  let (basic, digits) := splitLastHyphen cs
  (Draft.read? ⟨basic, 0x80, 0, firstBias, true⟩ 0 1 1 digits).map Draft.label

example : encodeLabel "bücher".toList = "bcher-kva".toList := by decide +kernel
example : encodeLabel "日本語".toList = "wgv71a119e".toList := by decide +kernel
example : decodeLabel? "bcher-kva".toList = some "bücher".toList := by decide +kernel
example : decodeLabel? "kv".toList = none := by decide +kernel

end ContextIndex.Domain
