import ContextIndex.Toml.Number

/-!
# Dates and times in TOML

A date, a date and a time with or without an offset from universal time, or a time of day.  A date
that has begun has to be one; what follows it is a time only if it starts like one.  A minute may
have a leap second.
-/

namespace ContextIndex.Toml

/-- A number of two digits from `least` to `most`. -/
def takeTwo (least most : Nat) (cs : List Char) : Reading Nat :=
  match cs with
  | a :: b :: rest =>
    if a.isDigit && b.isDigit then
      let n := (a.toNat - '0'.toNat) * 10 + (b.toNat - '0'.toNat)
      if least ≤ n ∧ n ≤ most then .ok (n, rest)
      else .error { fault := { cause := some .outOfRange }, ahead := cs }
    else .error { ahead := cs }
  | cs => .error { ahead := cs }

/-- What follows a sign. -/
def skipSign (sign : Char) : List Char → Except Snag (List Char)
  | [] => .error { ahead := [] }
  | c :: cs => if c = sign then .ok cs else .error { ahead := c :: cs }

/-- The days of a month. -/
def daysOf (year month : Nat) : Nat :=
  if month = 2 then
    if year % 4 = 0 ∧ (year % 100 ≠ 0 ∨ year % 400 = 0) then 29 else 28
  else if month = 4 ∨ month = 6 ∨ month = 9 ∨ month = 11 then 30
  else 31

/-- What follows the month and the day of a date. -/
def skipMonthDay (year : Nat) (cs : List Char) : Except Snag (List Char) := do
  let (month, cs) ← takeTwo 1 12 cs
  let cs ← skipSign '-' cs
  let (day, rest) ← takeTwo 1 31 cs
  if daysOf year month < day then
    .error { fault := { cause := some .outOfRange }, ahead := cs }
  else .ok rest

/-- What follows a date. -/
def skipDate (cs : List Char) : Except Snag (List Char) :=
  match cs with
  | a :: b :: c :: d :: '-' :: rest =>
    match Text.numeral? 10 [a, b, c, d] with
    | some year => (skipMonthDay year rest).mapError Snag.settled
    | none => .error { ahead := cs }
  | cs => .error { ahead := cs }

/-- What follows the fraction of a second, if one stands here. -/
def skipFraction : List Char → List Char
  | '.' :: c :: cs => if c.isDigit then cs.dropWhile Char.isDigit else '.' :: c :: cs
  | cs => cs

/-- What follows the minutes and the seconds of a time. -/
def skipMinutes (cs : List Char) : Except Snag (List Char) := do
  let (_, cs) ← takeTwo 0 59 cs
  let cs ← skipSign ':' cs
  let (_, cs) ← takeTwo 0 60 cs
  return skipFraction cs

/-- What follows a time of day. -/
def skipTime (cs : List Char) : Except Snag (List Char) := do
  let (_, cs) ← takeTwo 0 23 cs
  let cs ← skipSign ':' cs
  (skipMinutes cs).mapError Snag.settled

/-- What follows the hours and the minutes of an offset. -/
def skipOffsetTime (cs : List Char) : Except Snag (List Char) := do
  let (_, cs) ← takeTwo 0 23 cs
  let cs ← skipSign ':' cs
  let (_, cs) ← takeTwo 0 59 cs
  return cs

/-- What follows an offset from universal time, if one stands here. -/
def skipOffset (cs : List Char) : Except Snag (List Char) :=
  match cs with
  | 'Z' :: rest | 'z' :: rest => .ok rest
  | '+' :: rest | '-' :: rest =>
    (skipOffsetTime rest).mapError fun s => s.settled.inside .offset
  | cs => .ok cs

/-- What follows the time of a date, if one stands here. -/
def skipDateTime (cs : List Char) : Except Snag (List Char) :=
  match cs with
  | 'T' :: rest | 't' :: rest | ' ' :: rest =>
    match skipTime rest with
    | .ok rest => skipOffset rest
    | .error s => if s.firm then .error s else .ok cs
  | cs => .ok cs

/-- A date, with or without a time. -/
def takeDated (cs : List Char) : Reading Toml :=
  match skipDate cs >>= skipDateTime with
  | .ok rest => .ok (moment (consumed cs rest), rest)
  | .error s => .error (s.inside .moment)

/-- A time of day. -/
def takeTimed (cs : List Char) : Reading Toml :=
  match skipTime cs with
  | .ok rest => .ok (moment (consumed cs rest), rest)
  | .error s => .error (s.inside .time)

/-- A date, a date and a time, or a time of day. -/
def takeMoment (cs : List Char) : Reading Toml :=
  (takeDated cs).orElse fun _ => takeTimed cs

example : isWhole (takeMoment "2020-02-29T23:59:60.25-07:00".toList) = true := by decide +kernel
example : isWhole (takeMoment "2021-02-29".toList) = false := by decide +kernel
example : isWhole (takeMoment "1979-05-27 07:32:00Z".toList) = true := by decide +kernel

end ContextIndex.Toml
