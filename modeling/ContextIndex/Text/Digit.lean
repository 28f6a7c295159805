/-!
# Digits

Digits of a base up to sixteen, with letters of either case, and the numbers that they write.  The
main statements say that the decimal digits of a number write it, and that no number but zero starts
with a zero.
-/

namespace ContextIndex.Text

/-- The value of a hexadecimal digit. -/
def hexDigit? (c : Char) : Option Nat :=
  if '0' ≤ c ∧ c ≤ '9' then some (c.toNat - '0'.toNat)
  else if 'a' ≤ c ∧ c ≤ 'f' then some (c.toNat - 'a'.toNat + 10)
  else if 'A' ≤ c ∧ c ≤ 'F' then some (c.toNat - 'A'.toNat + 10)
  else none

/-- The value of a digit of a base up to sixteen. -/
def digit? (base : Nat) (c : Char) : Option Nat :=
  (hexDigit? c).filter (· < base)

/-- The number that digits of a base write after the digits of a number. -/
def numeralFrom? (base : Nat) : Nat → List Char → Option Nat
  | n, [] => some n
  | n, c :: cs => do numeralFrom? base (n * base + (← digit? base c)) cs

/-- The number that a text of digits of a base writes. -/
def numeral? (base : Nat) : List Char → Option Nat
  | [] => none
  | cs => numeralFrom? base 0 cs

/-- A capital hexadecimal digit. -/
def capitalHexDigit (n : Nat) : Char :=
  if n < 10 then Char.ofNat ('0'.toNat + n) else Char.ofNat ('A'.toNat + (n - 10))

example : numeral? 16 "fF".toList = some 255 := by decide +kernel
example : numeral? 8 "18".toList = none := by decide +kernel

/-! ## The digits of a number -/

theorem numeralFrom?_append (base n : Nat) (cs ds : List Char) :
    numeralFrom? base n (cs ++ ds) =
      (numeralFrom? base n cs).bind fun m => numeralFrom? base m ds := by
  induction cs generalizing n with
  | nil => rfl
  | cons c cs ih =>
    rw [List.cons_append, numeralFrom?, numeralFrom?]
    cases digit? base c with
    | none => rfl
    | some d => exact ih (n * base + d)

theorem numeralFrom?_eq_none {base : Nat} {c : Char} {cs : List Char} (hc : c ∈ cs)
    (h : digit? base c = none) (n : Nat) : numeralFrom? base n cs = none := by
  obtain ⟨u, v, rfl⟩ := List.append_of_mem hc
  rw [numeralFrom?_append]
  simp [numeralFrom?, h]

theorem numeral?_eq_none {base : Nat} {c : Char} {cs : List Char} (hc : c ∈ cs)
    (h : digit? base c = none) : numeral? base cs = none := by
  cases cs with
  | nil => rfl
  | cons d ds => exact numeralFrom?_eq_none hc h 0

theorem digit?_digitChar : ∀ n < 10, digit? 10 n.digitChar = some n := by
  decide +kernel

theorem numeralFrom?_digitChar {m : Nat} (h : m < 10) (n : Nat) :
    numeralFrom? 10 n [m.digitChar] = some (n * 10 + m) := by
  simp [numeralFrom?, digit?_digitChar m h]

theorem numeralFrom?_toDigits (n : Nat) : numeralFrom? 10 0 (Nat.toDigits 10 n) = some n := by
  induction n using Nat.strongRecOn with
  | ind n ih =>
    by_cases h : n < 10
    · rw [Nat.toDigits_of_lt_base h, numeralFrom?_digitChar h, Nat.zero_mul, Nat.zero_add]
    · rw [Nat.toDigits_of_base_le (by decide) (Nat.not_lt.mp h), numeralFrom?_append,
        ih (n / 10) (Nat.div_lt_self (by omega) (by decide)), Option.bind_some,
        numeralFrom?_digitChar (Nat.mod_lt n (by decide)), Nat.mul_comm, Nat.div_add_mod]

theorem numeral?_toDigits (n : Nat) : numeral? 10 (Nat.toDigits 10 n) = some n := by
  have hdigits := numeralFrom?_toDigits n
  cases h : Nat.toDigits 10 n with
  | nil => exact absurd h Nat.toDigits_ne_nil
  | cons d ds => rwa [h] at hdigits

theorem head_toDigits {n : Nat} (h : 0 < n) : ∃ d ds, Nat.toDigits 10 n = d :: ds ∧ d ≠ '0' := by
  induction n using Nat.strongRecOn with
  | ind n ih =>
    by_cases hlt : n < 10
    · have hne : ∀ n < 10, 0 < n → n.digitChar ≠ '0' := by decide
      exact ⟨n.digitChar, [], Nat.toDigits_of_lt_base hlt, hne n hlt h⟩
    · obtain ⟨d, ds, hfront, hd⟩ := ih (n / 10) (Nat.div_lt_self h (by decide)) (by omega)
      refine ⟨d, ds ++ [(n % 10).digitChar], ?_, hd⟩
      rw [Nat.toDigits_of_base_le (by decide) (Nat.not_lt.mp hlt), hfront, List.cons_append]

end ContextIndex.Text
