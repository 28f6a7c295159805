import ContextIndex.Proofs.Store.Stamps
import ContextIndex.Text.Digit

/-!
# Reading stamps

A stamp is read as RFC 3339 has it: the year takes four digits and no sign, and the date has to be
that of some day (`ofStamp?`).  So a stamp is read as the instant that it was written for if the
year is one from 0 to 9999, and else not at all (`ofStamp?_stamp`).  That rests on two inverses: the
digits of a number are read as the number (`takeNumber?_padded`), and a date tells its day
(`dayOfDate_dateOfDay`).
-/

namespace ContextIndex

/-! ## Digits -/

namespace Text

theorem numeralFrom?_padded {w n : Nat} (h : n < 10 ^ (w + 1)) :
    numeralFrom? 10 0 (Instant.padded (w + 1) n) = some n := by
  induction w generalizing n with
  | zero =>
    have hn : n < 10 := by simpa using h
    rw [Instant.padded_one hn, numeralFrom?_digitChar hn, Nat.zero_mul, Nat.zero_add]
  | succ w ih =>
    rw [Instant.padded_succ, numeralFrom?_append, ih (Instant.div_ten_lt h), Option.bind_some,
      numeralFrom?_digitChar (Nat.mod_lt n (by decide)), Nat.mul_comm, Nat.div_add_mod]

end Text

namespace Instant

/-- A number of so many digits, and what follows it. -/
def takeNumber? (width : Nat) (cs : List Char) : Option (Nat × List Char) :=
  if (cs.take width).length = width then
    (Text.numeral? 10 (cs.take width)).map fun n => (n, cs.drop width)
  else none

theorem takeNumber?_padded {w n : Nat} (h : n < 10 ^ (w + 1)) (cs : List Char) :
    takeNumber? (w + 1) (padded (w + 1) n ++ cs) = some (n, cs) := by
  have hlength := length_padded h
  have hnumeral : Text.numeral? 10 (padded (w + 1) n) = some n := by
    have hdigits := Text.numeralFrom?_padded h
    cases hpadded : padded (w + 1) n with
    | nil =>
      rw [hpadded] at hlength
      cases hlength
    | cons c cs =>
      rw [hpadded] at hdigits
      exact hdigits
  rw [takeNumber?, List.take_left' hlength, List.drop_left' hlength, if_pos hlength, hnumeral]
  rfl

/-! ## Days -/

/-- The day of a date, counted from the beginning of 1970. -/
def dayOfDate (d : Date) : Int :=
  let year := if d.month ≤ 2 then d.year - 1 else d.year
  let months := if d.month ≤ 2 then d.month + 9 else d.month - 3
  year / 400 * 146097 + startOfYear (year % 400).toNat + ((153 * months + 2) / 5 + d.day : Nat) -
    719469

/-- The date of a day tells the day. -/
theorem dayOfDate_dateOfDay (day : Int) : dayOfDate (dateOfDay day) = day := by
  have hera := dayOfEra_lt day
  have hlt := yearOfEra_lt hera
  have hstart := (startOfYear_bounds hera).1
  have hle := dayOfYear_le day
  -- Counted from March, the date has the year and the month from which it was made.
  have hyear : (if (dateOfDay day).month ≤ 2 then (dateOfDay day).year - 1
      else (dateOfDay day).year) = marchYear day := by
    have : (dateOfDay day).year = marchYear day + (if (dateOfDay day).month ≤ 2 then 1 else 0) :=
      rfl
    rw [this]
    split <;> omega
  have hmonths : (if (dateOfDay day).month ≤ 2 then (dateOfDay day).month + 9
      else (dateOfDay day).month - 3) = monthFromMarch (dayOfYear day) := by
    rw [month_dateOfDay]
    unfold monthFromMarch
    split <;> split <;> omega
  have hdiv : marchYear day / 400 = (day + 719468) / 146097 := by
    unfold marchYear
    omega
  have hmod : (marchYear day % 400).toNat = yearOfEra (dayOfEra day) := by
    unfold marchYear
    omega
  have hofYear : dayOfEra day = startOfYear (yearOfEra (dayOfEra day)) + dayOfYear day := by
    unfold dayOfYear
    omega
  unfold dayOfDate
  simp only [hyear, hmonths, hdiv, hmod, day_dateOfDay]
  have hday : (153 * monthFromMarch (dayOfYear day) + 2) / 5 + dayOfMonth (dayOfYear day) =
      dayOfYear day + 1 := by
    unfold dayOfMonth monthFromMarch
    omega
  have hofEra : (day + 719468) % 146097 = dayOfEra day := by
    unfold dayOfEra
    omega
  rw [hday]
  omega

/-! ## Readers -/

/-- What follows a sign that has to stand here. -/
def skip? (sign : Char) : List Char → Option (List Char)
  | [] => none
  | c :: cs => if c = sign then some cs else none

@[simp] theorem skip?_cons (sign : Char) (cs : List Char) : skip? sign (sign :: cs) = some cs :=
  if_pos rfl

/-- A date that some day has, and what follows it. -/
def takeDate? (cs : List Char) : Option (Date × List Char) := do
  let (year, cs) ← takeNumber? 4 cs
  let cs ← skip? '-' cs
  let (month, cs) ← takeNumber? 2 cs
  let cs ← skip? '-' cs
  let (day, cs) ← takeNumber? 2 cs
  let date : Date := ⟨year, month, day⟩
  if dateOfDay (dayOfDate date) = date then some (date, cs) else none

/-- The milliseconds of a time of day, and what follows it. -/
def takeTime? (cs : List Char) : Option (Nat × List Char) := do
  let (hour, cs) ← takeNumber? 2 cs
  let cs ← skip? ':' cs
  let (minute, cs) ← takeNumber? 2 cs
  let cs ← skip? ':' cs
  let (second, cs) ← takeNumber? 2 cs
  let cs ← skip? '.' cs
  let (milli, cs) ← takeNumber? 3 cs
  if hour < 24 ∧ minute < 60 ∧ second < 60 then
    some (((hour * 60 + minute) * 60 + second) * 1000 + milli, cs)
  else none

/-- The instant that a stamp says. -/
def ofStamp? (text : String) : Option Instant := do
  let (date, cs) ← takeDate? text.toList
  let cs ← skip? 'T' cs
  let (millis, cs) ← takeTime? cs
  if cs = ['Z'] then some ⟨dayOfDate date * millisPerDay + millis⟩ else none

theorem takeDate?_date (t : Instant) (h : t.isReadable = true) (cs : List Char) :
    takeDate? (padded 4 t.date.year.toNat ++ '-' :: (padded 2 t.date.month ++
      '-' :: (padded 2 t.date.day ++ cs))) = some (t.date, cs) := by
  obtain ⟨hyear, hlast⟩ := year_bounds h
  obtain ⟨-, hmonth, hday⟩ : 1 ≤ t.date.month ∧ t.date.month ≤ 12 ∧ t.date.day < 100 :=
    dateOfDay_bounds _
  have hdate : (⟨(t.date.year.toNat : Int), t.date.month, t.date.day⟩ : Date) = t.date := by
    rw [Int.toNat_of_nonneg hyear]
  have hvalid : dateOfDay (dayOfDate t.date) = t.date := by
    unfold date
    rw [dayOfDate_dateOfDay]
  unfold takeDate?
  rw [takeNumber?_padded (by omega)]
  simp only [Option.bind_eq_bind, Option.bind_some, skip?_cons]
  rw [takeNumber?_padded (by omega)]
  simp only [Option.bind_some, skip?_cons]
  rw [takeNumber?_padded (by omega)]
  simp only [Option.bind_some, hdate, hvalid, if_true]

theorem takeTime?_timeText (t : Instant) : takeTime? t.timeText = some (t.millisOfDay, ['Z']) := by
  have hlt := t.millisOfDay_lt
  unfold takeTime? timeText
  rw [takeNumber?_padded (by omega)]
  simp only [Option.bind_eq_bind, Option.bind_some, skip?_cons]
  rw [takeNumber?_padded (by omega)]
  simp only [Option.bind_some, skip?_cons]
  rw [takeNumber?_padded (by omega)]
  simp only [Option.bind_some, skip?_cons]
  rw [takeNumber?_padded (by omega)]
  rw [Option.bind_some, if_pos (by omega), Option.some_inj, Prod.mk.injEq]
  exact ⟨by omega, rfl⟩

/-! ## Signs -/

/-- The sign of a year before 0 or after 9999. -/
def yearSign (year : Int) : Char :=
  if year < 0 then '-' else '+'

theorem yearSign_cases (year : Int) : yearSign year = '-' ∨ yearSign year = '+' := by
  unfold yearSign
  split
  · exact .inl rfl
  · exact .inr rfl

/-- A year before 0 or after 9999 begins with its sign. -/
theorem stamp_toList_of_unreadable {t : Instant} (h : t.isReadable = false) :
    t.stamp.toList = yearSign t.date.year :: (padded 4 t.date.year.natAbs ++
      '-' :: (padded 2 t.date.month ++ '-' :: (padded 2 t.date.day ++ 'T' :: t.timeText))) := by
  unfold isReadable at h
  simp [stamp, secondsText, dateText, yearText, h, clockText, timeText, yearSign]

/-- A stamp is read as the instant that it was written for, unless its year has a sign. -/
theorem ofStamp?_stamp (t : Instant) :
    ofStamp? t.stamp = if t.isReadable = true then some t else none := by
  unfold ofStamp?
  cases h : t.isReadable with
  | true =>
    rw [stamp_toList h, takeDate?_date t h]
    simp only [Option.bind_eq_bind, Option.bind_some, skip?_cons]
    rw [takeTime?_timeText]
    have hmillis : dayOfDate t.date * millisPerDay + t.millisOfDay = t.millis := by
      unfold date millisOfDay
      rw [dayOfDate_dateOfDay]
      unfold millisPerDay
      omega
    simp only [Option.bind_some, if_true, hmillis]
  | false =>
    have hdigit : Text.digit? 10 (yearSign t.date.year) = none := by
      rcases yearSign_cases t.date.year with hsign | hsign <;> rw [hsign] <;> decide
    have hyear (cs : List Char) : takeNumber? 4 (yearSign t.date.year :: cs) = none := by
      unfold takeNumber?
      split
      · simp [Text.numeral?, Text.numeralFrom?, hdigit]
      · rfl
    rw [stamp_toList_of_unreadable h, takeDate?, hyear]
    rfl

/-- A year with a sign comes before every year without one. -/
theorem stamp_lt_of_unreadable {t u : Instant} (ht : t.isReadable = false)
    (hu : u.isReadable = true) : t.stamp < u.stamp := by
  obtain ⟨hyear, hlast⟩ := year_bounds hu
  have hbefore : ∀ n < 10, '-' < n.digitChar ∧ '+' < n.digitChar := by decide
  have hdigit := hbefore (u.date.year.toNat / 10 / 10 / 10) (by omega)
  have hpadded : padded 4 u.date.year.toNat = (u.date.year.toNat / 10 / 10 / 10).digitChar ::
      [(u.date.year.toNat / 10 / 10 % 10).digitChar, (u.date.year.toNat / 10 % 10).digitChar,
        (u.date.year.toNat % 10).digitChar] := by
    rw [padded_succ, padded_succ, padded_succ, padded_one (by omega)]
    rfl
  rw [String.lt_iff, stamp_toList_of_unreadable ht, stamp_toList hu, hpadded]
  refine List.cons_lt_cons_iff.mpr (.inl ?_)
  rcases yearSign_cases t.date.year with hsign | hsign <;> rw [hsign]
  · exact hdigit.1
  · exact hdigit.2

/-! ## The order of years -/

/-- A later instant is in no earlier year. -/
theorem year_le {t u : Instant} (h : t.millis ≤ u.millis) : t.date.year ≤ u.date.year := by
  have hdays : t.millis / millisPerDay ≤ u.millis / millisPerDay := by
    unfold millisPerDay
    omega
  rcases Int.lt_or_eq_of_le hdays with hlt | heq
  · have hbefore : t.date.Before u.date := dateOfDay_before hlt
    obtain ⟨hm, hm', -⟩ : 1 ≤ t.date.month ∧ t.date.month ≤ 12 ∧ t.date.day < 100 :=
      dateOfDay_bounds _
    obtain ⟨hn, hn', -⟩ : 1 ≤ u.date.month ∧ u.date.month ≤ 12 ∧ u.date.day < 100 :=
      dateOfDay_bounds _
    unfold Date.Before Date.months at hbefore
    omega
  · exact Int.le_of_eq (congrArg (fun day => (dateOfDay day).year) heq)

/-- What lies behind an instant in the years without a sign and has a sign itself lies behind all of
them. -/
theorem lt_of_unreadable {t u v : Instant} (ht : t.isReadable = true) (hu : u.isReadable = true)
    (hv : v.isReadable = false) (h : t.millis ≤ v.millis) : u.millis < v.millis := by
  by_contra hle
  have hafter := year_le h
  have hbefore := year_le (Int.not_lt.mp hle)
  obtain ⟨hfirst, -⟩ := year_bounds ht
  obtain ⟨-, hlast⟩ := year_bounds hu
  have : v.isReadable = true := by
    simp only [isReadable, isPlainYear, Bool.and_eq_true, decide_eq_true_eq]
    omega
  rw [hv] at this
  cases this

end Instant

end ContextIndex
