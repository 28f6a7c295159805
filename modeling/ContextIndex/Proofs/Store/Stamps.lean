import ContextIndex.Instant
import Mathlib.Data.List.Basic
import Mathlib.Data.String.Basic
import Mathlib.Order.Monotone.Basic

/-!
# The order of stamps

The store keeps instants as texts and compares these.  A stamp is a row of numbers of fixed width,
the year first, so two stamps are in the order of the first number in which they differ.  The
calendar agrees with that order: a later day has a later date (`dateOfDay_before`).  So stamps with
a year of four digits are in the order of time (`stamp_le_iff`).
-/

namespace ContextIndex.Instant

/-! ## Numbers of fixed width -/

/-- Texts of one length decide the order of whatever begins with them. -/
theorem append_lt_append {a a' : List Char} (h : a < a') (hlen : a.length = a'.length)
    (b b' : List Char) : a ++ b < a' ++ b' := by
  induction a generalizing a' with
  | nil =>
    cases a' with
    | nil => exact absurd h (List.not_lt_nil _)
    | cons y ys => cases hlen
  | cons x xs ih =>
    cases a' with
    | nil => cases hlen
    | cons y ys =>
      rw [List.cons_lt_cons_iff] at h
      rw [List.cons_append, List.cons_append, List.cons_lt_cons_iff]
      exact h.imp id fun ⟨heq, hlt⟩ => ⟨heq, ih hlt (Nat.succ.inj hlen)⟩

theorem padded_one {n : Nat} (h : n < 10) : padded 1 n = [n.digitChar] := by
  unfold padded
  simp only [Nat.toString_eq_repr, Nat.repr, String.toList_ofList]
  rw [Nat.toDigits_of_lt_base h]
  rfl

theorem padded_succ (w n : Nat) :
    padded (w + 2) n = padded (w + 1) (n / 10) ++ [(n % 10).digitChar] := by
  unfold padded
  simp only [Nat.toString_eq_repr, Nat.repr, String.toList_ofList]
  by_cases h : n < 10
  · rw [Nat.toDigits_of_lt_base h, Nat.div_eq_of_lt h, Nat.mod_eq_of_lt h]
    simp [List.replicate_succ']
  · rw [Nat.toDigits_of_base_le (by decide) (Nat.le_of_not_lt h)]
    simp

theorem div_ten_lt {w n : Nat} (h : n < 10 ^ (w + 2)) : n / 10 < 10 ^ (w + 1) := by
  rw [Nat.div_lt_iff_lt_mul (by decide)]
  simpa [Nat.pow_succ] using h

theorem length_padded {w n : Nat} (h : n < 10 ^ (w + 1)) :
    (padded (w + 1) n).length = w + 1 := by
  induction w generalizing n with
  | zero =>
    rw [padded_one (by simpa using h)]
    rfl
  | succ w ih =>
    rw [padded_succ, List.length_append, ih (div_ten_lt h)]
    rfl

theorem digitChar_lt : ∀ m < 10, ∀ n < m, n.digitChar < m.digitChar := by
  decide +kernel

/-- Numbers of one width are in the order of their texts. -/
theorem padded_lt {w n m : Nat} (h : n < m) (hm : m < 10 ^ (w + 1)) :
    padded (w + 1) n < padded (w + 1) m := by
  induction w generalizing n m with
  | zero =>
    have hm : m < 10 := by simpa using hm
    rw [padded_one (Nat.lt_trans h hm), padded_one hm, List.cons_lt_cons_iff]
    exact .inl (digitChar_lt m hm n h)
  | succ w ih =>
    have hdiv := div_ten_lt hm
    rw [padded_succ, padded_succ]
    rcases Nat.lt_or_eq_of_le (Nat.div_le_div_right (c := 10) (Nat.le_of_lt h)) with hlt | heq
    · refine append_lt_append (ih hlt hdiv) ?_ _ _
      rw [length_padded (Nat.lt_trans hlt hdiv), length_padded hdiv]
    · have hlast : n % 10 < m % 10 := by omega
      rw [heq]
      exact List.append_left_lt (List.cons_lt_cons_iff.mpr
        (.inl (digitChar_lt _ (Nat.mod_lt m (by decide)) _ hlast)))

/-- Texts that begin with numbers of one width are in the order of these, and then of the rest. -/
theorem padded_append_lt {w n m : Nat} {c : Char} {b b' : List Char} (hm : m < 10 ^ (w + 1))
    (h : n < m ∨ n = m ∧ b < b') : padded (w + 1) n ++ c :: b < padded (w + 1) m ++ c :: b' := by
  rcases h with hlt | ⟨rfl, hlt⟩
  · refine append_lt_append (padded_lt hlt hm) ?_ _ _
    rw [length_padded (Nat.lt_trans hlt hm), length_padded hm]
  · exact List.append_left_lt (List.cons_lt_cons_iff.mpr (.inr ⟨rfl, hlt⟩))

/-! ## Years -/

/-- The year of an era that a day of it lies in, counted from March. -/
def yearOfEra (day : Nat) : Nat :=
  (day - day / 1460 + day / 36524 - day / 146096) / 365

/-- The first day of a year of an era. -/
def startOfYear (year : Nat) : Nat :=
  365 * year + year / 4 - year / 100

theorem yearOfEra_lt {d : Nat} (h : d < 146097) : yearOfEra d < 400 := by
  unfold yearOfEra
  omega

theorem yearOfEra_mono {d e : Nat} (h : d ≤ e) (he : e < 146097) :
    yearOfEra d ≤ yearOfEra e := by
  induction e, h using Nat.le_induction with
  | base => exact Nat.le_refl _
  | succ e _ ih =>
    refine Nat.le_trans (ih (Nat.lt_of_succ_lt he)) (Nat.div_le_div_right ?_)
    -- Only on the last day of an era the last correction counts.
    by_cases hlast : e = 146095
    · subst hlast
      decide
    · have h₁ : e / 146096 = 0 := by omega
      have h₂ : (e + 1) / 146096 = 0 := by omega
      omega

/-- The first day of a year lies in it, and the day before the next year does, too. -/
theorem yearOfEra_ends : ∀ year < 400,
    yearOfEra (startOfYear year) = year ∧ startOfYear year + 364 < 146097 ∧
      (year + 1 < 400 → startOfYear year < startOfYear (year + 1) ∧
        startOfYear (year + 1) ≤ startOfYear year + 366 ∧
        yearOfEra (startOfYear (year + 1) - 1) = year) := by
  decide +kernel

/-- A day lies in its year. -/
theorem startOfYear_bounds {d : Nat} (h : d < 146097) :
    startOfYear (yearOfEra d) ≤ d ∧ d ≤ startOfYear (yearOfEra d) + 365 := by
  have hyear := yearOfEra_lt h
  generalize hy : yearOfEra d = y at hyear
  obtain ⟨hstart, -, hnext⟩ := yearOfEra_ends y hyear
  constructor
  · by_contra hlt
    cases y with
    | zero => exact hlt (Nat.zero_le d)
    | succ y =>
      obtain ⟨-, -, hbefore⟩ := yearOfEra_ends y (Nat.lt_of_succ_lt hyear)
      obtain ⟨-, hend, -⟩ := yearOfEra_ends (y + 1) hyear
      obtain ⟨-, -, hlast⟩ := hbefore hyear
      have := yearOfEra_mono (d := d) (e := startOfYear (y + 1) - 1) (by omega) (by omega)
      omega
  · by_contra hgt
    by_cases hlast : y + 1 < 400
    · obtain ⟨-, hlen, -⟩ := hnext hlast
      obtain ⟨hstart', -⟩ := yearOfEra_ends (y + 1) hlast
      have := yearOfEra_mono (d := startOfYear (y + 1)) (e := d) (by omega) h
      omega
    · obtain rfl : y = 399 := by omega
      have : startOfYear 399 = 145731 := by decide
      omega

/-! ## Dates -/

/-- The day of its era that a day is. -/
def dayOfEra (day : Int) : Nat :=
  ((day + 719468) % 146097).toNat

/-- The year of a day, counted from March. -/
def marchYear (day : Int) : Int :=
  yearOfEra (dayOfEra day) + (day + 719468) / 146097 * 400

/-- The days of the year before a day, counted from March. -/
def dayOfYear (day : Int) : Nat :=
  dayOfEra day - startOfYear (yearOfEra (dayOfEra day))

theorem dayOfEra_lt (day : Int) : dayOfEra day < 146097 := by
  unfold dayOfEra
  omega

theorem dayOfYear_le (day : Int) : dayOfYear day ≤ 365 := by
  have := startOfYear_bounds (dayOfEra_lt day)
  unfold dayOfYear
  omega

/-- Of two days, the later one is in a later year, or later in the same year. -/
theorem marchYear_lt {a b : Int} (h : a < b) :
    marchYear a < marchYear b ∨ marchYear a = marchYear b ∧ dayOfYear a < dayOfYear b := by
  have ha := dayOfEra_lt a
  have hb := dayOfEra_lt b
  have hyear := yearOfEra_lt ha
  have hera : (a + 719468) / 146097 ≤ (b + 719468) / 146097 := by omega
  rcases Int.lt_or_eq_of_le hera with hera | hera
  · left
    unfold marchYear
    omega
  · have hlt : dayOfEra a < dayOfEra b := by
      unfold dayOfEra
      omega
    rcases Nat.lt_or_eq_of_le (yearOfEra_mono (Nat.le_of_lt hlt) hb) with hyears | hyears
    · left
      unfold marchYear
      omega
    · have hstart := (startOfYear_bounds ha).1
      right
      unfold marchYear dayOfYear
      rw [← hyears]
      omega

/-- The months from March to a day of a year. -/
def monthFromMarch (dayOfYear : Nat) : Nat :=
  (5 * dayOfYear + 2) / 153

/-- The day of its month that a day of a year is. -/
def dayOfMonth (dayOfYear : Nat) : Nat :=
  dayOfYear - (153 * monthFromMarch dayOfYear + 2) / 5 + 1

/-- The months of a date, counted through the years. -/
def Date.months (d : Date) : Int :=
  12 * d.year + d.month

/-- A date is before another. -/
def Date.Before (d e : Date) : Prop :=
  d.months < e.months ∨ d.months = e.months ∧ d.day < e.day

theorem day_dateOfDay (day : Int) : (dateOfDay day).day = dayOfMonth (dayOfYear day) :=
  rfl

theorem month_dateOfDay (day : Int) :
    (dateOfDay day).month = if monthFromMarch (dayOfYear day) < 10 then
      monthFromMarch (dayOfYear day) + 3 else monthFromMarch (dayOfYear day) - 9 :=
  rfl

theorem months_dateOfDay (day : Int) :
    (dateOfDay day).months = 12 * marchYear day + monthFromMarch (dayOfYear day) + 3 := by
  have hle := dayOfYear_le day
  have hyear : (dateOfDay day).year =
      marchYear day + (if (dateOfDay day).month ≤ 2 then 1 else 0) := rfl
  unfold Date.months
  rw [hyear, month_dateOfDay]
  unfold monthFromMarch
  split <;> split <;> omega

/-- The month and the day of a date have two digits. -/
theorem dateOfDay_bounds (day : Int) :
    1 ≤ (dateOfDay day).month ∧ (dateOfDay day).month ≤ 12 ∧ (dateOfDay day).day < 100 := by
  have hle := dayOfYear_le day
  rw [month_dateOfDay, day_dateOfDay]
  unfold dayOfMonth monthFromMarch
  split <;> omega

/-- A later day has a later date. -/
theorem dateOfDay_before {a b : Int} (h : a < b) : (dateOfDay a).Before (dateOfDay b) := by
  have hle := dayOfYear_le a
  unfold Date.Before
  rw [months_dateOfDay, months_dateOfDay, day_dateOfDay, day_dateOfDay]
  unfold dayOfMonth monthFromMarch
  rcases marchYear_lt h with hyear | ⟨hyear, hday⟩ <;> omega

/-! ## Stamps -/

/-- The time of day in a stamp, to the end of the stamp. -/
def timeText (t : Instant) : List Char :=
  padded 2 (t.millisOfDay / 60000 / 60) ++ ':' :: (padded 2 (t.millisOfDay / 60000 % 60) ++
    ':' :: (padded 2 (t.millisOfDay / 1000 % 60) ++ '.' ::
      (padded 3 (t.millisOfDay % 1000) ++ ['Z'])))

theorem stamp_toList {t : Instant} (h : t.isReadable = true) :
    t.stamp.toList = padded 4 t.date.year.toNat ++ '-' :: (padded 2 t.date.month ++
      '-' :: (padded 2 t.date.day ++ 'T' :: t.timeText)) := by
  unfold isReadable at h
  simp [stamp, secondsText, dateText, yearText, h, clockText, timeText]

theorem millisOfDay_lt (t : Instant) : t.millisOfDay < 86400000 := by
  unfold millisOfDay millisPerDay
  omega

theorem timeText_lt {t u : Instant} (h : t.millisOfDay < u.millisOfDay) :
    t.timeText < u.timeText := by
  have hu := u.millisOfDay_lt
  unfold timeText
  refine padded_append_lt (by omega) ?_
  by_cases hhour : t.millisOfDay / 60000 / 60 < u.millisOfDay / 60000 / 60
  · exact .inl hhour
  refine .inr ⟨by omega, padded_append_lt (by omega) ?_⟩
  by_cases hminute : t.millisOfDay / 60000 % 60 < u.millisOfDay / 60000 % 60
  · exact .inl hminute
  refine .inr ⟨by omega, padded_append_lt (by omega) ?_⟩
  by_cases hsecond : t.millisOfDay / 1000 % 60 < u.millisOfDay / 1000 % 60
  · exact .inl hsecond
  exact .inr ⟨by omega, padded_append_lt (by omega) (.inl (by omega))⟩

theorem year_bounds {t : Instant} (h : t.isReadable = true) :
    0 ≤ t.date.year ∧ t.date.year ≤ 9999 := by
  simpa [isReadable, isPlainYear] using h

/-- An earlier instant has an earlier stamp. -/
theorem stamp_lt {t u : Instant} (ht : t.isReadable = true) (hu : u.isReadable = true)
    (h : t.millis < u.millis) : t.stamp < u.stamp := by
  rw [String.lt_iff, stamp_toList ht, stamp_toList hu]
  have hdays : t.millis / millisPerDay ≤ u.millis / millisPerDay := by
    unfold millisPerDay
    omega
  rcases Int.lt_or_eq_of_le hdays with hday | hday
  · have hbefore : t.date.Before u.date := dateOfDay_before hday
    obtain ⟨hm, hm', hd⟩ : 1 ≤ t.date.month ∧ t.date.month ≤ 12 ∧ t.date.day < 100 :=
      dateOfDay_bounds _
    obtain ⟨hn, hn', he⟩ : 1 ≤ u.date.month ∧ u.date.month ≤ 12 ∧ u.date.day < 100 :=
      dateOfDay_bounds _
    obtain ⟨hy, -⟩ := year_bounds ht
    obtain ⟨hz, hz'⟩ := year_bounds hu
    unfold Date.Before Date.months at hbefore
    refine padded_append_lt (by omega) ?_
    by_cases hyear : t.date.year.toNat < u.date.year.toNat
    · exact .inl hyear
    refine .inr ⟨by omega, padded_append_lt (by omega) ?_⟩
    by_cases hmonth : t.date.month < u.date.month
    · exact .inl hmonth
    exact .inr ⟨by omega, padded_append_lt (by omega) (.inl (by omega))⟩
  · have hdate : t.date = u.date := congrArg dateOfDay hday
    have hlt : t.millisOfDay < u.millisOfDay := by
      unfold millisOfDay millisPerDay at *
      omega
    obtain ⟨hm, hm', hd⟩ : 1 ≤ u.date.month ∧ u.date.month ≤ 12 ∧ u.date.day < 100 :=
      dateOfDay_bounds _
    obtain ⟨hz, hz'⟩ := year_bounds hu
    rw [hdate]
    refine padded_append_lt (by omega) (.inr ⟨rfl, ?_⟩)
    refine padded_append_lt (by omega) (.inr ⟨rfl, ?_⟩)
    exact padded_append_lt (by omega) (.inr ⟨rfl, timeText_lt hlt⟩)

/-- Stamps with a year of four digits are in the order of time. -/
theorem stamp_le_iff {t u : Instant} (ht : t.isReadable = true) (hu : u.isReadable = true) :
    t.stamp ≤ u.stamp ↔ t.millis ≤ u.millis := by
  constructor
  · intro hle
    by_contra hlt
    exact absurd (stamp_lt hu ht (by omega)) (not_lt.mpr hle)
  · intro hle
    rcases Int.lt_or_eq_of_le hle with hlt | heq
    · exact le_of_lt (stamp_lt ht hu hlt)
    · rw [show t = u by cases t; cases u; exact congrArg _ heq]

-- A year of five digits takes a sign, which stands before every digit.
example : (⟨253402300800000⟩ : Instant).stamp < (⟨1577934245678⟩ : Instant).stamp := by
  decide +kernel

end ContextIndex.Instant
