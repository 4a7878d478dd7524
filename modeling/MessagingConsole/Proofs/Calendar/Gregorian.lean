import Mathlib.Tactic.IntervalCases
import MessagingConsole.Calendar

/-!
# The proleptic Gregorian calendar

The calendar as it is told: which years are leap years, how long the months are, and which day
comes after which.  A day has one date, and the dates that are computed for the days are these.

## Main Definitions

- `IsLeap`, `monthDays` - leap years and the lengths of months.
- `Date.Valid`, `Date.next`, `Date.days` - the dates, the date of the next day and the days from
  1 January 1970 to a date.

## Main Results

- `civilDate_valid`, `days_civilDate` - the date of a day is a date and counts the days to it.
- `civilDate_days` - it is the only one.
- `civilDate_succ` - the dates of the days follow each other.
- `Date.before_iff_days_lt` - the order of the dates is that of the days.
-/

namespace MessagingConsole.Calendar

/-! ## Years and months -/

/-- A year with a 29 February: every fourth one, but of those that end a century every fourth
one only. -/
def IsLeap (year : Int) : Prop := 4 ∣ year ∧ (100 ∣ year → 400 ∣ year)

instance (year : Int) : Decidable (IsLeap year) :=
  inferInstanceAs (Decidable (_ ∧ (_ → _)))

/-- The days of a month. -/
def monthDays (year : Int) : (month : Nat) → Nat
  | 1 | 3 | 5 | 7 | 8 | 10 | 12 => 31
  | 4 | 6 | 9 | 11 => 30
  | 2 => if IsLeap year then 29 else 28
  | _ => 0

/-- The days of a year before a month. -/
def daysBeforeMonth (year : Int) : (month : Nat) → Nat
  | 0 => 0
  | month + 1 => daysBeforeMonth year month + monthDays year month

/-- The days of a year. -/
def yearDays (year : Int) : Nat := daysBeforeMonth year 13

/-- The days from the beginning of year 1 to that of a year. -/
def daysBeforeYear (year : Int) : Int :=
  365 * (year - 1) + (year - 1) / 4 - (year - 1) / 100 + (year - 1) / 400

/-- No month is without days. -/
theorem monthDays_pos (year : Int) {month : Nat} (range : 1 ≤ month ∧ month ≤ 12) :
    0 < monthDays year month := by
  obtain ⟨first, last⟩ := range
  by_cases february : month = 2
  · rw [february, monthDays]
    split <;> decide
  · interval_cases month <;> first | contradiction | exact Nat.zero_lt_succ _

theorem monthDays_le (year : Int) (month : Nat) : monthDays year month ≤ 31 := by
  unfold monthDays
  split
  case h_12 => split <;> decide
  all_goals decide

theorem yearDays_eq (year : Int) : yearDays year = if IsLeap year then 366 else 365 := by
  simp only [yearDays, daysBeforeMonth, monthDays]
  split <;> rfl

/-- A year begins when all days of the last one are over. -/
theorem daysBeforeYear_succ (year : Int) :
    daysBeforeYear (year + 1) = daysBeforeYear year + yearDays year := by
  rw [yearDays_eq]
  unfold daysBeforeYear
  split
  case isTrue leap =>
    obtain ⟨fourth, century⟩ := leap
    omega
  case isFalse common =>
    have ordinary : ¬ 4 ∣ year ∨ 100 ∣ year ∧ ¬ 400 ∣ year := by
      unfold IsLeap at common
      tauto
    omega

theorem daysBeforeYear_mono {year later : Int} (le : year ≤ later) :
    daysBeforeYear year ≤ daysBeforeYear later := by
  unfold daysBeforeYear
  omega

theorem daysBeforeMonth_mono (year : Int) {month later : Nat} (le : month ≤ later) :
    daysBeforeMonth year month ≤ daysBeforeMonth year later := by
  induction le with
  | refl => exact le_rfl
  | step _ ih => exact ih.trans (Nat.le_add_right _ _)

/-! ## Dates -/

namespace Date

/-- The dates that the calendar has. -/
structure Valid (d : Date) : Prop where
  month : 1 ≤ d.month ∧ d.month ≤ 12
  day : 1 ≤ d.day ∧ d.day ≤ monthDays d.year d.month

instance (d : Date) : Decidable d.Valid :=
  decidable_of_iff ((1 ≤ d.month ∧ d.month ≤ 12) ∧ 1 ≤ d.day ∧ d.day ≤ monthDays d.year d.month)
    ⟨fun ⟨month, day⟩ => ⟨month, day⟩, fun ⟨month, day⟩ => ⟨month, day⟩⟩

/-- The days from 1 January 1970 to a date. -/
def days (d : Date) : Int :=
  daysBeforeYear d.year - daysBeforeYear 1970 + daysBeforeMonth d.year d.month + (d.day - 1)

/-- The date of the day after. -/
def next (d : Date) : Date :=
  if d.day < monthDays d.year d.month then { d with day := d.day + 1 }
  else if d.month < 12 then ⟨d.year, d.month + 1, 1⟩
  else ⟨d.year + 1, 1, 1⟩

/-- Years are compared first, then months and days. -/
def Before (d e : Date) : Prop :=
  d.year < e.year ∨ d.year = e.year ∧ (d.month < e.month ∨ d.month = e.month ∧ d.day < e.day)

variable {d e : Date}

theorem Valid.next (valid : d.Valid) : d.next.Valid := by
  obtain ⟨month, day⟩ := valid
  unfold Date.next
  split_ifs with within more
  · exact ⟨month, Nat.le_add_left 1 _, within⟩
  · have range : 1 ≤ d.month + 1 ∧ d.month + 1 ≤ 12 := ⟨Nat.le_add_left 1 _, more⟩
    exact ⟨range, le_rfl, monthDays_pos d.year range⟩
  · have range : 1 ≤ 1 ∧ 1 ≤ 12 := by decide
    exact ⟨range, le_rfl, monthDays_pos (d.year + 1) range⟩

/-- The day after is one day later. -/
theorem days_next (valid : d.Valid) : d.next.days = d.days + 1 := by
  obtain ⟨month, day⟩ := valid
  unfold Date.next
  split_ifs with within more
  · simp only [days]
    omega
  · have last : d.day = monthDays d.year d.month := by omega
    simp only [days, daysBeforeMonth, last]
    omega
  · have last : d.day = monthDays d.year d.month := by omega
    have december : d.month = 12 := by omega
    have year : yearDays d.year = daysBeforeMonth d.year 12 + monthDays d.year 12 := rfl
    have january : daysBeforeMonth (d.year + 1) 1 = 0 := rfl
    simp only [days, daysBeforeYear_succ, january, last, december, year]
    omega

/-- A date lies within its month, which lies within its year. -/
theorem Valid.within_month (valid : d.Valid) :
    daysBeforeMonth d.year d.month + d.day ≤ daysBeforeMonth d.year (d.month + 1) :=
  Nat.add_le_add_left valid.day.2 _

theorem Valid.within_year (valid : d.Valid) :
    daysBeforeMonth d.year d.month + d.day ≤ yearDays d.year :=
  valid.within_month.trans (daysBeforeMonth_mono d.year (Nat.succ_le_succ valid.month.2))

theorem days_lt (before : d.Before e) (valid : d.Valid) (valid' : e.Valid) :
    d.days < e.days := by
  unfold days
  have first := valid'.day.1
  rcases before with earlier | ⟨year, earlier | ⟨month, earlier⟩⟩
  · have within := valid.within_year
    have later : daysBeforeYear d.year + yearDays d.year ≤ daysBeforeYear e.year := by
      rw [← daysBeforeYear_succ]
      exact daysBeforeYear_mono earlier
    omega
  · have within := valid.within_month
    have later : daysBeforeMonth d.year (d.month + 1) ≤ daysBeforeMonth d.year e.month :=
      daysBeforeMonth_mono d.year earlier
    rw [← year]
    omega
  · rw [← year, ← month]
    omega

theorem before_trichotomy (d e : Date) : d.Before e ∨ d = e ∨ e.Before d := by
  obtain ⟨year, month, day⟩ := d
  obtain ⟨year', month', day'⟩ := e
  simp only [Before, Date.mk.injEq]
  omega

/-- **Dates are in order as the days are.** -/
theorem before_iff_days_lt (valid : d.Valid) (valid' : e.Valid) :
    d.Before e ↔ d.days < e.days := by
  refine ⟨fun before => days_lt before valid valid', fun lt => ?_⟩
  rcases before_trichotomy d e with before | rfl | after
  · exact before
  · exact absurd lt (lt_irrefl _)
  · exact absurd lt (days_lt after valid' valid).not_gt

theorem eq_of_days_eq (valid : d.Valid) (valid' : e.Valid) (same : d.days = e.days) : d = e := by
  rcases before_trichotomy d e with before | same | after
  · exact absurd same (days_lt before valid valid').ne
  · exact same
  · exact absurd same (days_lt after valid' valid).ne'

end Date

/-! ## The date of a day -/

/-- The date that is `day` days after the first of the month that is `month` months after March
of `year`. -/
def marchDate (year : Int) (month day : Nat) : Date :=
  { year := year + (if month < 10 then 0 else 1)
    month := if month < 10 then month + 3 else month - 9
    day := day + 1 }

section March

variable {year : Int} {month : Nat} (day : Nat)

theorem marchDate_month (index : month < 12) :
    1 ≤ (marchDate year month day).month ∧ (marchDate year month day).month ≤ 12 := by
  unfold marchDate
  dsimp only
  split <;> omega

/-- From March on, five months have 153 days. -/
theorem daysBeforeMonth_march (year : Int) (early : month < 10) :
    daysBeforeMonth year (month + 3) = 31 + monthDays year 2 + (153 * month + 2) / 5 := by
  interval_cases month <;> simp only [daysBeforeMonth, monthDays]
  omega

theorem days_marchDate (index : month < 12) :
    (marchDate year month day).days =
      daysBeforeYear (year + 1) - daysBeforeYear 1970 - 306 +
        ((153 * month + 2) / 5 + day : Nat) := by
  have ending := daysBeforeYear_succ year
  have february : yearDays year = 337 + monthDays year 2 := by
    rw [yearDays, daysBeforeMonth, daysBeforeMonth_march year (by decide : 9 < 10)]
    simp only [monthDays]
    omega
  by_cases early : month < 10
  · have march := daysBeforeMonth_march year early
    simp only [marchDate, Date.days, if_pos early, march, Int.add_zero]
    omega
  · obtain rfl | rfl : month = 10 ∨ month = 11 := by omega
    · have first : daysBeforeMonth (year + 1) 1 = 0 := rfl
      simp only [marchDate, Date.days, if_neg early, first]
      omega
    · have second : daysBeforeMonth (year + 1) 2 = 31 := rfl
      simp only [marchDate, Date.days, if_neg early, second]
      omega

theorem monthDays_marchDate (index : month < 12) :
    (153 * month + 2) / 5 +
        monthDays (marchDate year month day).year (marchDate year month day).month =
      if month = 11 then yearDays (year + 1) else (153 * (month + 1) + 2) / 5 := by
  by_cases last : month = 11
  · subst last
    rw [if_pos rfl, yearDays_eq]
    show 337 + (if IsLeap (year + 1) then 29 else 28) = _
    split <;> rfl
  · have early : month < 11 := by omega
    rw [if_neg last]
    interval_cases month <;> rfl

end March

section Cycle

variable {cycle : Int}

/-- Counted from March, four years have 1461 days, a century has 36524 and four of them have
146097. -/
theorem daysBeforeYear_march {century period year : Nat} (centuries : century ≤ 3)
    (periods : period ≤ 24) (years : year ≤ 3) :
    daysBeforeYear (400 * cycle + 100 * century + 4 * period + year + 1) =
      146097 * cycle + (36524 * century + 1461 * period + 365 * year : Nat) := by
  unfold daysBeforeYear
  omega

theorem isLeap_march {century period : Nat} (periods : period ≤ 24)
    (last : period = 24 → century = 3) :
    IsLeap (400 * cycle + 100 * century + 4 * period + (3 : Nat) + 1) := by
  unfold IsLeap
  omega

/-- The date of a day of a cycle is found by cutting off centuries, periods of four years and
years. -/
theorem exists_marchDate {day : Nat} (within : day < cycleDays) :
    ∃ century period year inYear : Nat,
      dateInCycle cycle day =
        marchDate (400 * cycle + 100 * century + 4 * period + year) ((5 * inYear + 2) / 153)
          (inYear - (153 * ((5 * inYear + 2) / 153) + 2) / 5) ∧
      century ≤ 3 ∧ period ≤ 24 ∧ year ≤ 3 ∧
      day = 36524 * century + 1461 * period + 365 * year + inYear ∧
      (inYear < 365 ∨ inYear = 365 ∧ year = 3 ∧ (period = 24 → century = 3)) := by
  unfold cycleDays at within
  refine ⟨_, _, _, _, rfl, ?_⟩
  generalize century_eq : min 3 (day / 36524) = century
  generalize period_eq : (day - 36524 * century) / 1461 = period
  generalize inPeriod_eq : (day - 36524 * century) % 1461 = inPeriod
  omega

theorem dateInCycle_spec {day : Nat} (within : day < cycleDays) :
    (dateInCycle cycle day).Valid ∧
      (dateInCycle cycle day).days = cycleDays * cycle + day - epochDay := by
  obtain ⟨century, period, year, inYear, date, centuries, periods, years, parts, ends⟩ :=
    @exists_marchDate cycle day within
  have index : (5 * inYear + 2) / 153 < 12 := by omega
  have begins := @daysBeforeYear_march cycle century period year centuries periods years
  rw [date]
  refine ⟨⟨marchDate_month _ index, Nat.le_add_left 1 _, ?_⟩, ?_⟩
  · have inYear_lt :
        inYear < yearDays (400 * cycle + 100 * century + 4 * period + year + 1) := by
      rw [yearDays_eq]
      rcases ends with short | ⟨rfl, rfl, last⟩
      · split <;> omega
      · rw [if_pos (isLeap_march periods last)]
        decide
    have length := @monthDays_marchDate (400 * cycle + 100 * century + 4 * period + year) _
      (inYear - (153 * ((5 * inYear + 2) / 153) + 2) / 5) index
    show inYear - (153 * ((5 * inYear + 2) / 153) + 2) / 5 + 1 ≤ _
    split at length <;> omega
  · rw [days_marchDate _ index, begins]
    have epoch : daysBeforeYear 1970 = 719162 := by decide
    unfold cycleDays epochDay
    omega

end Cycle

theorem civilDate_spec (days : Int) : (civilDate days).Valid ∧ (civilDate days).days = days := by
  have positive : (0 : Int) < cycleDays := by decide
  have within : ((days + epochDay) % cycleDays).toNat < cycleDays := by
    have lt := Int.emod_lt_of_pos (days + epochDay) positive
    omega
  have nonneg := Int.emod_nonneg (days + epochDay) positive.ne'
  have parts := Int.mul_ediv_add_emod (days + epochDay) cycleDays
  obtain ⟨valid, counted⟩ := @dateInCycle_spec ((days + epochDay) / cycleDays) _ within
  refine ⟨valid, counted.trans ?_⟩
  rw [Int.toNat_of_nonneg nonneg, parts, Int.add_sub_cancel]

/-- **The date of a day is one of the calendar.** -/
theorem civilDate_valid (days : Int) : (civilDate days).Valid := (civilDate_spec days).1

/-- **The date of a day counts the days to it.** -/
theorem days_civilDate (days : Int) : (civilDate days).days = days := (civilDate_spec days).2

/-- **Every date of the calendar is that of its day.** -/
theorem civilDate_days {d : Date} (valid : d.Valid) : civilDate d.days = d :=
  Date.eq_of_days_eq (civilDate_valid d.days) valid (days_civilDate d.days)

/-- **The dates of the days follow each other.** -/
theorem civilDate_succ (days : Int) : civilDate (days + 1) = (civilDate days).next := by
  have valid := civilDate_valid days
  rw [← civilDate_days valid.next, Date.days_next valid, days_civilDate]

example : civilDate 0 = ⟨1970, 1, 1⟩ := by decide

/-- The days have their dates in order. -/
theorem civilDate_before_iff (days later : Int) :
    (civilDate days).Before (civilDate later) ↔ days < later := by
  rw [Date.before_iff_days_lt (civilDate_valid days) (civilDate_valid later), days_civilDate,
    days_civilDate]

end MessagingConsole.Calendar
