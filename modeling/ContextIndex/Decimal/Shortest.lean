/-!
# Shortest decimals

A binary64 number stands for every real number that is rounded to it.  Its shortest decimal has the
fewest digits of all decimals among these, and of those with as few digits it is the nearest.  The
search tries one digit, two digits and so on; with `n` digits only the two neighbours of the number
on the grid of its size can be hits.  All steps are exact, on natural numbers.
-/

namespace ContextIndex

/-- A decimal number: digits times a power of ten. -/
structure Decimal where
  /-- The digits, as a number. -/
  digits : Nat
  /-- The power of ten. -/
  exponent : Int
deriving DecidableEq, Repr

namespace Decimal

/-- A quotient of natural numbers. -/
structure Quotient where
  /-- What is divided. -/
  above : Nat
  /-- What it is divided by. -/
  below : Nat
deriving DecidableEq, Repr

/-- A quotient times a power of a base. -/
def Quotient.scale (x : Quotient) (base : Nat) (exponent : Int) : Quotient :=
  if 0 ≤ exponent then ⟨x.above * Nat.pow base exponent.toNat, x.below⟩
  else ⟨x.above, x.below * Nat.pow base (-exponent).toNat⟩

/-- Whether a quotient is below one. -/
def Quotient.isProper (x : Quotient) : Bool :=
  x.above < x.below

/-- The least number of digits before the point that holds a quotient, counted from `least`; the
number is negative if zeros follow the point. -/
def magnitude (x : Quotient) : Nat → Int → Int
  | 0, least => least
  | fuel + 1, least =>
    if (x.scale 10 (-least)).isProper then least else magnitude x fuel (least + 1)

/-- The decimal of `n` digits nearest to a quotient, if it lies in the interval from `below` to
`above`, whose ends count if `closed`; of two that are as near, the even one. -/
def onGrid (x below above : Quotient) (closed : Bool) (point : Int) (n : Nat) : Option Decimal :=
  let grid := point - n
  let x := x.scale 10 (-grid)
  let below := below.scale 10 (-grid)
  let above := above.scale 10 (-grid)
  let fits (d : Nat) : Bool :=
    if closed then decide (below.above ≤ d * below.below ∧ d * above.below ≤ above.above)
    else decide (below.above < d * below.below ∧ d * above.below < above.above)
  let lower := x.above / x.below
  let upper := lower + 1
  let toLower := x.above - lower * x.below
  let toUpper := upper * x.below - x.above
  let lowerFirst := toLower < toUpper || (toLower == toUpper && lower % 2 == 0)
  let (first, second) := if lowerFirst then (lower, upper) else (upper, lower)
  if fits first then some ⟨first, grid⟩
  else if fits second then some ⟨second, grid⟩
  else none

/-- The first of the grids of `n`, `n + 1` and so on digits that has a hit. -/
def searchGrids (hit : Nat → Option Decimal) : Nat → Nat → Option Decimal
  | 0, _ => none
  | fuel + 1, n =>
    match hit n with
    | some d => some d
    | none => searchGrids hit fuel (n + 1)

/-- The shortest decimal of `mantissa` times a power of two, where `mantissa` is the least of its
binade if `low`. -/
def shortestOf (mantissa : Nat) (exponent : Int) (low : Bool) : Decimal :=
  let at4 (n : Nat) : Quotient := (⟨n, 4⟩ : Quotient).scale 2 exponent
  let x := at4 (4 * mantissa)
  let below := at4 (4 * mantissa - (if low then 1 else 2))
  let above := at4 (4 * mantissa + 2)
  let point := magnitude x 640 (-324)
  (searchGrids (onGrid x below above (mantissa % 2 == 0) point) 17 1).getD ⟨0, 0⟩

/-- A decimal without zeros at its end. -/
def strip : Nat → Decimal → Decimal
  | 0, d => d
  | fuel + 1, d =>
    if d.digits % 10 == 0 then strip fuel ⟨d.digits / 10, d.exponent + 1⟩ else d

/-- A natural number as digits. -/
def digitsOf (n : Nat) : List Char :=
  (toString n).toList

/-- A decimal as text: positional from `0.00001` to below ten to the power of sixteen, with a digit
on either side of the point, otherwise with one digit before the point and a signed exponent. -/
def text (d : Decimal) : String :=
  let ds := digitsOf d.digits
  let point := d.exponent + ds.length
  let zeros (n : Int) : List Char := List.replicate n.toNat '0'
  String.ofList <|
    if 0 ≤ d.exponent ∧ point ≤ 16 then ds ++ zeros d.exponent ++ ['.', '0']
    else if 0 < point ∧ point ≤ 16 then ds.take point.toNat ++ '.' :: ds.drop point.toNat
    else if -5 < point ∧ point ≤ 0 then '0' :: '.' :: (zeros (-point) ++ ds)
    else
      let fraction := if ds.length = 1 then [] else '.' :: ds.drop 1
      let sign := if 1 ≤ point then ['+'] else []
      ds.take 1 ++ fraction ++ 'e' :: sign ++ (toString (point - 1)).toList

/-- A decimal as text with all its digits, and a digit on either side of the point. -/
def plain (d : Decimal) : String :=
  let ds := digitsOf d.digits
  let point := d.exponent + ds.length
  let zeros (n : Int) : List Char := List.replicate n.toNat '0'
  String.ofList <|
    if 0 ≤ d.exponent then ds ++ zeros d.exponent ++ ['.', '0']
    else if 0 < point then ds.take point.toNat ++ '.' :: ds.drop point.toNat
    else '0' :: '.' :: (zeros (-point) ++ ds)

/-- The shortest decimal of a binary64 number, read off its bits without the sign; the number is
finite and not zero. -/
def ofBits (bits : Nat) : Decimal :=
  let fraction := bits % 0x10000000000000
  let level := bits / 0x10000000000000 % 0x800
  let d :=
    if level = 0 then shortestOf fraction (-1074) false
    else shortestOf (fraction + 0x10000000000000) (level - 1075) (fraction == 0 && 1 < level)
  d.strip 20

/-- A finite binary64 number as text. -/
def realText (x : Float) : String :=
  let bits := x.toBits.toNat
  let size := bits % 0x8000000000000000
  let unsigned := if size = 0 then "0.0" else (ofBits size).text
  if size = bits then unsigned else "-" ++ unsigned

/-- The binary64 number nearest to `digits` times a power of ten, as text with all its digits; it is
finite. -/
def plainText (digits : Nat) (exponent : Int) : String :=
  let x := if exponent < 0 then Float.ofScientific digits true exponent.natAbs
    else Float.ofScientific digits false exponent.natAbs
  let bits := x.toBits.toNat
  if digits = 0 ∨ exponent + (toString digits).length < -400 ∨ bits = 0 then "0.0"
  else (ofBits bits).plain

example : (ofBits 0x3FB999999999999A).text = "0.1" := by decide +kernel
example : (ofBits 0x43F0000000000000).text = "1.8446744073709552e+19" := by decide +kernel
example : (ofBits 1).text = "5e-324" := by decide +kernel
example : (ofBits 0x7FEFFFFFFFFFFFFF).text = "1.7976931348623157e+308" := by decide +kernel
example : (ofBits 0x43F0000000000000).plain = "18446744073709552000.0" := by decide +kernel
example : (ofBits 0x4059000000000000).text = "100.0" := by decide +kernel

end Decimal

end ContextIndex
