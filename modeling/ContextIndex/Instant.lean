/-!
# Instants

An instant is a whole number of milliseconds since the beginning of 1970 in UTC.  It is written as
a date and a time of day in the proleptic Gregorian calendar.  A year from 0 to 9999 takes four
digits; any other year is written with its sign and at least four digits, and such a text is not
read back.
-/

namespace ContextIndex

/-- A point in time, in milliseconds since the beginning of 1970 in UTC. -/
structure Instant where
  /-- The milliseconds. -/
  millis : Int
deriving DecidableEq, Repr, Inhabited

namespace Instant

/-- Milliseconds of a day. -/
def millisPerDay : Int := 86400000

/-- A date of the Gregorian calendar. -/
structure Date where
  /-- The year, zero and negative years included. -/
  year : Int
  /-- The month, from one. -/
  month : Nat
  /-- The day of the month, from one. -/
  day : Nat
deriving DecidableEq, Repr

/-- The date of a day counted from the beginning of 1970.  Years are counted from March here, so
that a leap day ends its year, and in eras of four hundred years. -/
def dateOfDay (day : Int) : Date :=
  let z := day + 719468
  let era := z / 146097
  let dayOfEra := (z % 146097).toNat
  let yearOfEra :=
    (dayOfEra - dayOfEra / 1460 + dayOfEra / 36524 - dayOfEra / 146096) / 365
  let dayOfYear := dayOfEra - (365 * yearOfEra + yearOfEra / 4 - yearOfEra / 100)
  let monthFromMarch := (5 * dayOfYear + 2) / 153
  let month := if monthFromMarch < 10 then monthFromMarch + 3 else monthFromMarch - 9
  { year := (yearOfEra : Int) + era * 400 + (if month ≤ 2 then 1 else 0)
    month := month
    day := dayOfYear - (153 * monthFromMarch + 2) / 5 + 1 }

/-- The date of an instant. -/
def date (t : Instant) : Date :=
  dateOfDay (t.millis / millisPerDay)

/-- The milliseconds since the beginning of its day. -/
def millisOfDay (t : Instant) : Nat :=
  (t.millis % millisPerDay).toNat

/-- A number with zeros in front up to a width. -/
def padded (width n : Nat) : List Char :=
  let digits := (toString n).toList
  List.replicate (width - digits.length) '0' ++ digits

/-- Whether a year takes four digits and no sign. -/
def isPlainYear (year : Int) : Bool :=
  decide (0 ≤ year) && decide (year ≤ 9999)

/-- The text of a year. -/
def yearText (year : Int) : List Char :=
  if isPlainYear year then padded 4 year.toNat
  else (if year < 0 then '-' else '+') :: padded 4 year.natAbs

/-- The text of a date. -/
def dateText (d : Date) : List Char :=
  yearText d.year ++ '-' :: padded 2 d.month ++ '-' :: padded 2 d.day

/-- Hours and minutes. -/
def clockText (t : Instant) : List Char :=
  let minutes := t.millisOfDay / 60000
  padded 2 (minutes / 60) ++ ':' :: padded 2 (minutes % 60)

/-- The date and the time to the second. -/
def secondsText (t : Instant) : List Char :=
  dateText t.date ++ 'T' :: t.clockText ++ ':' :: padded 2 (t.millisOfDay / 1000 % 60)

/-- The text under which the store keeps an instant: with milliseconds and `Z`. -/
def stamp (t : Instant) : String :=
  String.ofList (t.secondsText ++ '.' :: padded 3 (t.millisOfDay % 1000) ++ ['Z'])

/-- The text of an instant in answers: without a fraction if there is none. -/
def text (t : Instant) : String :=
  if t.millisOfDay % 1000 = 0 then String.ofList (t.secondsText ++ ['Z']) else t.stamp

/-- The text of an instant in tables: to the minute. -/
def minuteText (t : Instant) : String :=
  String.ofList (dateText t.date ++ ' ' :: t.clockText)

/-- Whether the stamp of an instant can be read back. -/
def isReadable (t : Instant) : Bool :=
  isPlainYear t.date.year

/-- A later instant. -/
def plus (t : Instant) (millis : Int) : Instant :=
  ⟨t.millis + millis⟩

example : (⟨1577934245678⟩ : Instant).stamp = "2020-01-02T03:04:05.678Z" := by decide +kernel
example : (⟨951782400000⟩ : Instant).text = "2000-02-29T00:00:00Z" := by decide +kernel
example : (⟨-1⟩ : Instant).stamp = "1969-12-31T23:59:59.999Z" := by decide +kernel
example : (⟨253402300800000⟩ : Instant).text = "+10000-01-01T00:00:00Z" := by decide +kernel

end Instant

end ContextIndex
