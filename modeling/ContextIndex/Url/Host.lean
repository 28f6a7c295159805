import ContextIndex.Domain.Name
import ContextIndex.Url.Encoding
import ContextIndex.Url.Fault

/-!
# Hosts

A host is the name of a domain or a number.  A name that ends in a number has to be an address of four
bytes, which may be written with fewer and larger numbers and in three bases; one in brackets is an
address of eight groups, where the longest run of zeros is left out.
-/

namespace ContextIndex.Url

/-! ## Four bytes -/

/-- A number: hexadecimal after `0x`, octal after a zero, else decimal. -/
def number? : List Char → Option Nat
  | '0' :: x :: cs =>
    if x = 'x' ∨ x = 'X' then if cs.isEmpty then some 0 else Text.numeral? 16 cs
    else Text.numeral? 8 (x :: cs)
  | cs => Text.numeral? 10 cs

/-- The parts of a name between dots.  A dot at its end is left out. -/
def labels (name : List Char) : List (List Char) :=
  let parts := Path.pieces '.' name
  if 1 < parts.length ∧ parts.getLast? = some [] then parts.dropLast else parts

/-- Whether a name ends in a number. -/
def endsInNumber (name : List Char) : Bool :=
  match (labels name).getLast? with
  | none => false
  | some l => (!l.isEmpty && l.all Char.isDigit) || (number? l).isSome

/-- The value of an address of numbers: the last fills up the bytes that the others leave. -/
def fourBytesValue? : Nat → List Nat → Option Nat
  | _, [] => none
  | room, [n] => if n < Nat.pow 256 room then some n else none
  | 0, _ => none
  | room + 1, n :: ns => do
    if n < 256 then some (n * Nat.pow 256 room + (← fourBytesValue? room ns)) else none

/-- The address of four bytes that a name writes. -/
def fourBytes? (name : List Char) : Option Nat := do
  let parts := labels name
  if 4 < parts.length then none
  else fourBytesValue? 4 (← parts.mapM number?)

/-- An address of four bytes, as four decimal numbers. -/
def fourBytesText (n : Nat) : List Char :=
  let byte (i : Nat) : List Char := (toString (n / Nat.pow 256 i % 256)).toList
  byte 3 ++ '.' :: byte 2 ++ '.' :: byte 1 ++ '.' :: byte 0

/-! ## Eight groups -/

/-- A group: up to four hexadecimal digits. -/
def group? (cs : List Char) : Option Nat :=
  if cs.length ≤ 4 then Text.numeral? 16 cs else none

/-- A byte in decimal, without zeros in front. -/
def plainByte? (cs : List Char) : Option Nat :=
  if 1 < cs.length ∧ cs.head? = some '0' then none
  else (Text.numeral? 10 cs).filter (· < 256)

/-- Two groups written as four bytes. -/
def dotted? (cs : List Char) : Option (List Nat) := do
  match ← (Path.pieces '.' cs).mapM plainByte? with
  | [a, b, c, d] => return [a * 256 + b, c * 256 + d]
  | _ => none

/-- Groups between colons; the last two may be written as four bytes. -/
def groups? (mayEndDotted : Bool) : List (List Char) → Option (List Nat)
  | [] => some []
  | [last] =>
    if mayEndDotted && last.contains '.' then dotted? last else (group? last).map ([·])
  | g :: gs => do return (← group? g) :: (← groups? mayEndDotted gs)

/-- The groups of a text that may be empty. -/
def groupsOf? (mayEndDotted : Bool) (cs : List Char) : Option (List Nat) :=
  if cs.isEmpty then some [] else groups? mayEndDotted (Path.pieces ':' cs)

/-- A text before and after its first two colons in a row. -/
def splitGap : List Char → Option (List Char × List Char)
  | ':' :: ':' :: cs => some ([], cs)
  | c :: cs => (splitGap cs).map fun (front, back) => (c :: front, back)
  | [] => none

/-- The eight groups that a text writes. -/
def eightGroups? (cs : List Char) : Option (List Nat) := do
  match splitGap cs with
  | none =>
    let gs ← groupsOf? true cs
    if gs.length = 8 then some gs else none
  | some (front, back) =>
    let front ← groupsOf? false front
    let back ← groupsOf? true back
    if front.length + back.length ≤ 7 then
      some (front ++ List.replicate (8 - front.length - back.length) 0 ++ back)
    else none

/-- The number of zeros that groups start with. -/
def leadingZeros (gs : List Nat) : Nat :=
  (gs.takeWhile (· = 0)).length

/-- The longest run of zeros in groups that start at an index: where it starts and its length. -/
def longestGap : Nat → List Nat → Nat × Nat
  | i, [] => (i, 0)
  | i, g :: gs =>
    let here := leadingZeros (g :: gs)
    let later := longestGap (i + 1) gs
    if later.2 ≤ here then (i, here) else later

/-- Groups between colons. -/
def groupsText (gs : List Nat) : List Char :=
  List.intercalate [':'] (gs.map fun g => Nat.toDigits 16 g)

/-- Eight groups, with the first longest run of two zeros or more left out. -/
def eightGroupsText (gs : List Nat) : List Char :=
  let (start, size) := longestGap 0 gs
  if size < 2 then groupsText gs
  else groupsText (gs.take start) ++ "::".toList ++ groupsText (gs.drop (start + size))

/-! ## Names -/

/-- The characters that no host holds as they are. -/
def isForbidden (c : Char) : Bool :=
  ['\x00', '\t', '\n', '\r', ' ', '#', '/', ':', '<', '>', '?', '@', '[', '\\', ']', '^',
    '|'].contains c

/-- The characters that the name of a domain does not have. -/
def isForbiddenInDomain (c : Char) : Bool :=
  isForbidden c || c == '%' || decide (c.toNat < 0x20) || c == '\x7f'

/-- A host in brackets. -/
def bracketHost (cs : List Char) : Except Fault (List Char) :=
  if cs.getLast? = some ']' then
    match eightGroups? (cs.drop 1).dropLast with
    | some gs => .ok ('[' :: eightGroupsText gs ++ [']'])
    | none => .error .badEightGroups
  else .error .badEightGroups

/-- The host of a scheme that looks names up: the name of a domain, or an address. -/
def domainHost (cs : List Char) : Except Fault (List Char) :=
  if cs.head? = some '[' then bracketHost cs
  else
    match Domain.toAscii? isForbiddenInDomain (Text.fromUtf8 (unescape cs)) with
    | none => .error .badName
    | some name =>
      if name.isEmpty then .error .emptyHost
      else if endsInNumber name then
        match fourBytes? name with
        | some n => .ok (fourBytesText n)
        | none => .error .badFourBytes
      else .ok name

/-- The host of any other scheme, kept as it is. -/
def keptHost (cs : List Char) : Except Fault (List Char) :=
  if cs.head? = some '[' then bracketHost cs
  else if cs.any isForbidden then .error .badCharacter
  else .ok (encode (fun c => decide (0x20 ≤ c.toNat) && decide (c.toNat < 0x7F)) cs)

example : fourBytes? "0x7f.1".toList = some 0x7F000001 := by decide +kernel
example : fourBytes? "1.2.3.256".toList = none := by decide +kernel
example : (eightGroups? "1::1.2.3.4".toList).map eightGroupsText = some "1::102:304".toList := by
  decide +kernel
example : eightGroups? ":::".toList = none := by decide +kernel

end ContextIndex.Url
