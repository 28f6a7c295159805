/-!
# Base64

Bytes as letters of an alphabet of sixty-four, four letters for three bytes.  Only the canonical form
is read: the last group is filled up with equals signs, and the bits that it leaves over are zero.
Of a text that is not in that form, `faultOf` says what is wrong with it.
-/

namespace ContextIndex.Text.Base64

/-- The six bits of a letter. -/
def bits? (c : Char) : Option Nat :=
  if 'A' ≤ c ∧ c ≤ 'Z' then some (c.toNat - 'A'.toNat)
  else if 'a' ≤ c ∧ c ≤ 'z' then some (c.toNat - 'a'.toNat + 26)
  else if '0' ≤ c ∧ c ≤ '9' then some (c.toNat - '0'.toNat + 52)
  else if c = '+' then some 62
  else if c = '/' then some 63
  else none

/-- The bytes of the last group. -/
def lastBytes? (a b c d : Char) : Option (List UInt8) := do
  let a ← bits? a
  let b ← bits? b
  if c = '=' ∧ d = '=' then
    if b % 16 = 0 then some [UInt8.ofNat (a * 4 + b / 16)] else none
  else
    let c ← bits? c
    let front := [UInt8.ofNat (a * 4 + b / 16), UInt8.ofNat (b % 16 * 16 + c / 4)]
    if d = '=' then if c % 4 = 0 then some front else none
    else
      let d ← bits? d
      return front ++ [UInt8.ofNat (c % 4 * 64 + d)]

/-- The bytes of a group that is not the last. -/
def innerBytes? (a b c d : Char) : Option (List UInt8) :=
  if d = '=' then none else lastBytes? a b c d

/-- The bytes that a text stands for. -/
def decode? : List Char → Option (List UInt8)
  | [] => some []
  | [a, b, c, d] => lastBytes? a b c d
  | a :: b :: c :: d :: cs => do return (← innerBytes? a b c d) ++ (← decode? cs)
  | _ => none

/-! ## Faults -/

/-- What is wrong with a text that stands for no bytes.  Places are counted in bytes. -/
inductive Fault
  /-- A byte that does not belong where it stands. -/
  | strayByte (byte : UInt8) (place : Nat)
  /-- The last letter holds bits that are left over and not zero. -/
  | strayBits (byte : UInt8) (place : Nat)
  /-- The last group is a single letter, which ends here. -/
  | loneLetter (place : Nat)
  /-- The last group is not filled up. -/
  | unfilled
deriving DecidableEq, Repr

/-- The message of a fault. -/
def Fault.message : Fault → String
  | strayByte byte place =>
    "Invalid symbol " ++ toString byte.toNat ++ ", offset " ++ toString place ++ "."
  | strayBits byte place =>
    "Invalid last symbol " ++ toString byte.toNat ++ ", offset " ++ toString place ++ "."
  | loneLetter place => "Invalid input length: " ++ toString place
  | unfilled => "Invalid padding"

/-- Whether a byte is a letter of the alphabet. -/
def isLetter (b : UInt8) : Bool :=
  (bits? (Char.ofNat b.toNat)).isSome

/-- The byte that fills the last group up. -/
def filler : UInt8 := 61

/-- The first byte that is no letter, given the place of the first byte. -/
def strayByteIn? (place : Nat) : List UInt8 → Option Fault
  | [] => none
  | b :: bs => if isLetter b then strayByteIn? (place + 1) bs else some (.strayByte b place)

/-- What is wrong with a last group at a place. -/
def lastFault (place : Nat) (group : List UInt8) : Fault :=
  let letters := group.takeWhile isLetter
  let place := place + letters.length
  match group.dropWhile isLetter with
  | [] => if letters.length < 2 then .loneLetter place else .unfilled
  | b :: bs =>
    if b ≠ filler ∨ letters.length < 2 ∨ bs.any (· ≠ filler) then .strayByte b place
    else if group.length < 4 then .unfilled
    else .strayBits (letters.getLast?.getD 0) (place - 1)

/-- What is wrong with a text that stands for no bytes.  A single byte behind whole groups is looked
at first. -/
def faultOf (bytes : List UInt8) : Fault :=
  let extra := bytes.length % 4
  let whole := bytes.length - if extra = 0 then 4 else extra
  let single := bytes.getLast?.filter fun b => extra == 1 && b != filler && !isLetter b
  match single with
  | some b => .strayByte b (bytes.length - 1)
  | none => (strayByteIn? 0 (bytes.take whole)).getD (lastFault whole (bytes.drop whole))

example : decode? "Zm9vYg==".toList = some [102, 111, 111, 98] := by decide +kernel
example : decode? "Zm9vYh==".toList = none := by decide +kernel
example : decode? "Zg==Zg==".toList = none := by decide +kernel
example : faultOf "Zm9vYh==".toUTF8.toList = .strayBits 104 5 := by decide +kernel
example : faultOf "Zg==Zg==".toUTF8.toList = .strayByte 61 2 := by decide +kernel
example : faultOf "Zm9vY".toUTF8.toList = .loneLetter 5 := by decide +kernel
example : faultOf "Zm9vYg=".toUTF8.toList = .unfilled := by decide +kernel

end ContextIndex.Text.Base64
