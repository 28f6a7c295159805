import ContextIndex.Text.Digit
import ContextIndex.Toml.Reading
import ContextIndex.Toml.Value
import ContextIndex.Word

/-!
# Numbers in TOML

A whole number is decimal with a sign or in another base without; a number with a fraction or an
exponent is decimal.  Underscores may stand between two digits.  A whole number fits 64 bits with a
sign, and a number with a fraction is not so large that the nearest number of double precision is
infinite, unless it is negative.
-/

namespace ContextIndex.Toml

/-! ## Digits -/

/-- Digits after a first one.  An underscore has to be followed by a digit. -/
def takeGrouped (isDigit : Char → Bool) : List Char → Reading (List Char)
  | [] => .ok ([], [])
  | ['_'] => .error { fault := { expected := [.digit] }, ahead := [], firm := true }
  | '_' :: d :: cs =>
    if isDigit d then prependDigit d (takeGrouped isDigit cs)
    else .error { fault := { expected := [.digit] }, ahead := d :: cs, firm := true }
  | d :: cs => if isDigit d then prependDigit d (takeGrouped isDigit cs) else .ok ([], d :: cs)
where
  /-- A reading of more digits, with one in front. -/
  prependDigit (d : Char) (r : Reading (List Char)) : Reading (List Char) :=
    r.give (d :: ·)

/-- Digits, at least one. -/
def takeDigits (isDigit : Char → Bool) : List Char → Reading (List Char)
  | [] => .error { ahead := [] }
  | d :: cs =>
    if isDigit d then (takeGrouped isDigit cs).give (d :: ·) else .error { ahead := d :: cs }

/-- A sign, if one stands here: whether it is a minus, and what follows it. -/
def splitSign : List Char → Bool × List Char
  | '-' :: cs => (true, cs)
  | '+' :: cs => (false, cs)
  | cs => (false, cs)

/-- The digits of a decimal number before a point or an exponent, and whether a minus stands before
them: a single zero, or digits that start with none. -/
def takeDecimal (cs : List Char) : Reading (Bool × List Char) :=
  let (negative, cs) := splitSign cs
  Reading.inside .integer <|
    match cs with
    | '0' :: rest => .ok ((negative, ['0']), rest)
    | cs => (takeDigits Char.isDigit cs).give (negative, ·)

/-! ## Whole numbers -/

/-- A number that has to fit 64 bits with a sign. -/
def bounded (n : Int) : Except Cause Int :=
  if (signedBound : Int) ≤ n then .error .tooLarge
  else if n < -(signedBound : Int) then .error .tooSmall
  else .ok n

/-- A whole number that starts where `cs` is ahead, if it is bounded. -/
def boundedAt (cs : List Char) (n : Int) (rest : List Char) : Reading Int :=
  match bounded n with
  | .ok n => .ok (n, rest)
  | .error cause => .error { fault := { cause := some cause }, ahead := cs, firm := true }

/-- A whole number in a base, after its two first characters. -/
def takeBased (part : Part) (base : Nat) (cs : List Char) : Reading Int :=
  match takeDigits (fun c => (Text.digit? base c).isSome) (cs.drop 2) with
  | .error s => .error (s.settled.inside part)
  | .ok (digits, rest) => boundedAt cs ((Text.numeral? base digits).getD 0) rest

/-- A whole number. -/
def takeInteger (cs : List Char) : Reading Int :=
  match cs with
  | '0' :: 'x' :: _ => takeBased .hexadecimal 16 cs
  | '0' :: 'o' :: _ => takeBased .octal 8 cs
  | '0' :: 'b' :: _ => takeBased .binary 2 cs
  | cs =>
    match takeDecimal cs with
    | .error s => .error s
    | .ok ((negative, digits), rest) =>
      let n : Int := ((Text.numeral? 10 digits).getD 0 : Nat)
      boundedAt cs (if negative then -n else n) rest

/-! ## Numbers with a fraction -/

/-- Whether a significand times a power of ten lies beyond the largest number of double precision,
where the nearest number is infinite. -/
def overflows (digits : List Char) (exponent : Int) : Bool :=
  let significand := (Text.numeral? 10 digits).getD 0
  let bound := Nat.pow 2 1024 - Nat.pow 2 970
  if significand = 0 then false
  else
    let magnitude := exponent + (toString significand).length
    if magnitude ≤ 308 then false
    else if 310 < magnitude then true
    else if exponent < 0 then decide (bound * Nat.pow 10 exponent.natAbs ≤ significand)
    else decide (bound ≤ significand * Nat.pow 10 exponent.natAbs)

/-- The exponent of a number, which starts with its letter: a sign and digits that may start with
zeros. -/
def takeExponent : List Char → Reading Int
  | [] => .error { ahead := [] }
  | c :: cs =>
    if c = 'e' ∨ c = 'E' then
      let (negative, cs) := splitSign cs
      (takeDigits Char.isDigit cs).settled.give fun digits =>
        let n : Int := ((Text.numeral? 10 digits).getD 0 : Nat)
        if negative then -n else n
    else .error { ahead := c :: cs }

/-- The digits of the fraction of a number, which starts with its point. -/
def takeFraction : List Char → Reading (List Char)
  | '.' :: cs => (takeDigits Char.isDigit cs).settled.wanting [.digit]
  | cs => .error { ahead := cs }

/-- What makes a number one with a fraction: the digits of the fraction, and the exponent. -/
def takeScale (cs : List Char) : Reading (List Char × Int) :=
  ((takeExponent cs).give fun e => ([], e)).orElse fun _ =>
    match takeFraction cs with
    | .error s => .error s
    | .ok (fraction, rest) =>
      ((takeExponent rest).optional rest).give fun e => (fraction, e.getD 0)

/-- The text between two places. -/
def consumed (cs rest : List Char) : String :=
  String.ofList (cs.take (cs.length - rest.length))

/-- A number with a fraction or an exponent. -/
def takeScaled (cs : List Char) : Reading Toml :=
  match takeDecimal cs with
  | .error s => .error s
  | .ok ((negative, whole), rest) =>
    match takeScale rest with
    | .error s => .error s
    | .ok ((fraction, exponent), rest) =>
      if !negative && overflows (whole ++ fraction) (exponent - fraction.length) then
        .error { ahead := cs, firm := true }
      else .ok (float (consumed cs rest), rest)

/-- What follows a word, if it stands here. -/
def afterWord? (word : String) (cs : List Char) : Option (List Char) :=
  let w := word.toList
  if w.isPrefixOf cs then some (cs.drop w.length) else none

/-- A word for an infinity or no number, with a sign. -/
def takeSpecial (cs : List Char) : Reading Toml :=
  let behind := (splitSign cs).2
  match (afterWord? "inf" behind).or (afterWord? "nan" behind) with
  | some rest => .ok (float (consumed cs rest), rest)
  | none => .error { ahead := behind }

/-- A number with a fraction, an infinity, or no number. -/
def takeFloat (cs : List Char) : Reading Toml :=
  ((takeScaled cs).orElse fun _ => takeSpecial cs).inside .float

/-- Whether a reading takes all of a text. -/
def isWhole {α : Type} (r : Reading α) : Bool :=
  match r with
  | .ok (_, []) => true
  | _ => false

example : (takeInteger "-1_000".toList).toOption.map Prod.fst = some (-1000) := by decide +kernel
example : (takeInteger "0xDEAD_beef".toList).toOption.map Prod.fst = some 3735928559 := by
  decide +kernel
example : isWhole (takeInteger "007".toList) = false := by decide +kernel
example : isWhole (takeInteger "9223372036854775808".toList) = false := by decide +kernel
example : isWhole (takeFloat "1_0.5e+0_3".toList) = true := by decide +kernel
example : isWhole (takeFloat "1e309".toList) = false := by decide +kernel
example : isWhole (takeFloat "1".toList) = false := by decide +kernel

end ContextIndex.Toml
