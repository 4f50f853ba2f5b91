import EnergyCore.Foundations.Calendar
import EnergyCore.Foundations.LocalPeriods

/-!
# Hours, days, months and years

The calendar repeats every 400 years, so every day has a date, also before year 1. Hours, days, months and years follow
each other on every clock.

* `Date.toDay_ofDay`, `Date.valid_ofDay` — the date of a day is a date of the calendar, and that of the day;
* `Date.toDay_mem_month`, `Date.toDay_mem_year` — a day lies in its month and in its year;
* `hours`, `days`, `months`, `years` — the periods.
-/

namespace EnergyCore.Calendar

open TimeZones

/-! ### Dates of all days -/

/-- The year of the first 400 years that has the same calendar. -/
def yearOfCycle (year : ℤ) : ℕ := ((year - 1) % 400).toNat + 1

def isLeapYear (year : ℤ) : Bool := isLeap (yearOfCycle year)

/-- The number of 1 January of a year, counted from the epoch. -/
def newYear (year : ℤ) : ℤ := (year - 1) / 400 * 146097 + daysBeforeYear (yearOfCycle year) - 719162

theorem newYear_succ (year : ℤ) : newYear (year + 1) = newYear year + daysInYear (yearOfCycle year) := by
  unfold newYear yearOfCycle
  rw [add_sub_cancel_right]
  by_cases hlast : (year - 1) % 400 = 399
  · have hyear : (year % 400).toNat = 0 := by omega
    rw [hyear, hlast]
    have h400 : daysBeforeYear (Int.toNat 399 + 1) + daysInYear (Int.toNat 399 + 1) = 146097 := rfl
    have h1 : daysBeforeYear (0 + 1) = 0 := rfl
    omega
  · have hyear : (year % 400).toNat = ((year - 1) % 400).toNat + 1 := by omega
    rw [hyear, daysBeforeYear_succ (show 1 ≤ ((year - 1) % 400).toNat + 1 by omega)]
    omega

theorem newYear_lt_succ (year : ℤ) : newYear year < newYear (year + 1) := by
  rw [newYear_succ]
  unfold daysInYear
  split_ifs
  · omega
  · omega

structure Date where
  year : ℤ
  month : ℕ
  day : ℕ
  deriving Repr, DecidableEq

namespace Date

/-- A date that the calendar has. -/
structure Valid (d : Date) : Prop where
  month_pos : 1 ≤ d.month
  month_le : d.month ≤ 12
  day_pos : 1 ≤ d.day
  day_le : d.day ≤ daysInMonth (isLeapYear d.year) d.month

instance (d : Date) : Decidable d.Valid :=
  decidable_of_iff (1 ≤ d.month ∧ d.month ≤ 12 ∧ 1 ≤ d.day ∧ d.day ≤ daysInMonth (isLeapYear d.year) d.month)
    ⟨fun ⟨hm, hm', hd, hd'⟩ => ⟨hm, hm', hd, hd'⟩, fun h => ⟨h.month_pos, h.month_le, h.day_pos, h.day_le⟩⟩

/-- The number of the day of a date, counted from the epoch. -/
def toDay (d : Date) : ℤ := newYear d.year + daysBeforeMonth (isLeapYear d.year) d.month + d.day - 1

/-- The date of a day. -/
def ofDay (n : ℤ) : Date :=
  let yearDay := yearAndDay ((n + 719162) % 146097).toNat
  let monthDay := monthAndDay (isLeap yearDay.1) yearDay.2
  { year := (n + 719162) / 146097 * 400 + yearDay.1
    month := monthDay.1
    day := monthDay.2 }

/-- The year of a day of the first 400 years. -/
theorem yearOfCycle_ofDay (n : ℤ) : yearOfCycle (ofDay n).year = (yearAndDay ((n + 719162) % 146097).toNat).1 ∧
      ((ofDay n).year - 1) / 400 = (n + 719162) / 146097 := by
  obtain ⟨hpos, hsum, hlt⟩ := yearAndDay_spec ((n + 719162) % 146097).toNat
  have hyear : (ofDay n).year = (n + 719162) / 146097 * 400 + (yearAndDay ((n + 719162) % 146097).toNat).1 := rfl
  have hcycle : (yearAndDay ((n + 719162) % 146097).toNat).1 ≤ 400 := by
    by_contra hgt
    have hmono := daysBeforeYear_mono (show 1 ≤ 401 by decide)
      (show 401 ≤ (yearAndDay ((n + 719162) % 146097).toNat).1 by omega)
    have h401 : daysBeforeYear 401 = 146097 := rfl
    omega
  rw [hyear]
  unfold yearOfCycle
  omega

theorem valid_ofDay (n : ℤ) : (ofDay n).Valid := by
  obtain ⟨-, -, hlt⟩ := yearAndDay_spec ((n + 719162) % 146097).toNat
  obtain ⟨hm, hm', hd, hd', -⟩ := monthAndDay_spec (isLeap (yearAndDay ((n + 719162) % 146097).toNat).1) hlt
  refine ⟨hm, hm', hd, ?_⟩
  rw [isLeapYear, (yearOfCycle_ofDay n).1]
  exact hd'

/-- **The date of a day** is that of the day. -/
@[simp] theorem toDay_ofDay (n : ℤ) : (ofDay n).toDay = n := by
  obtain ⟨-, hsum, hlt⟩ := yearAndDay_spec ((n + 719162) % 146097).toNat
  obtain ⟨-, -, -, -, hmonth⟩ := monthAndDay_spec (isLeap (yearAndDay ((n + 719162) % 146097).toNat).1) hlt
  obtain ⟨hcycle, hera⟩ := yearOfCycle_ofDay n
  have hmonthDay : ((ofDay n).month, (ofDay n).day) = monthAndDay (isLeap (yearAndDay ((n + 719162) % 146097).toNat).1)
      (yearAndDay ((n + 719162) % 146097).toNat).2 := rfl
  rw [← hmonthDay] at hmonth
  dsimp only at hmonth
  rw [toDay, newYear, isLeapYear, hcycle, hera]
  omega

/-- The number of the month of a date, counted from January of year 0. -/
def monthNumber (d : Date) : ℤ := 12 * d.year + d.month - 1

end Date

/-- The first day of a month. -/
def firstOfMonth (n : ℤ) : Date where
  year := n / 12
  month := (n % 12).toNat + 1
  day := 1

theorem firstOfMonth_monthNumber {d : Date} (h : d.Valid) : firstOfMonth d.monthNumber = { d with day := 1 } := by
  have hpos := h.month_pos
  have hle := h.month_le
  unfold firstOfMonth Date.monthNumber
  rw [Date.mk.injEq]
  exact ⟨by omega, by omega, rfl⟩

theorem toDay_firstOfMonth_succ (n : ℤ) : (firstOfMonth (n + 1)).toDay
    = (firstOfMonth n).toDay + daysInMonth (isLeapYear (firstOfMonth n).year) (firstOfMonth n).month := by
  by_cases hlast : n % 12 = 11
  · have hyear : (firstOfMonth (n + 1)).year = (firstOfMonth n).year + 1 := by
      show (n + 1) / 12 = n / 12 + 1
      omega
    have hmonth : (firstOfMonth (n + 1)).month = 1 := by
      show ((n + 1) % 12).toNat + 1 = 1
      omega
    have hmonth' : (firstOfMonth n).month = 12 := by
      show (n % 12).toNat + 1 = 12
      omega
    have hall : ∀ leap : Bool, daysBeforeMonth leap 1 = 0 ∧
        daysBeforeMonth leap 12 + daysInMonth leap 12 = if leap then 366 else 365 := by decide
    have hlength : daysInYear (yearOfCycle (firstOfMonth n).year)
        = if isLeapYear (firstOfMonth n).year then 366 else 365 := rfl
    have hJanuary := (hall (isLeapYear ((firstOfMonth n).year + 1))).1
    have hDecember := (hall (isLeapYear (firstOfMonth n).year)).2
    unfold Date.toDay
    rw [hyear, hmonth, hmonth', newYear_succ, hlength, hJanuary, ← hDecember]
    show _ + _ + ((1 : ℕ) : ℤ) - 1 = _ + _ + ((1 : ℕ) : ℤ) - 1 + _
    omega
  · have hyear : (firstOfMonth (n + 1)).year = (firstOfMonth n).year := by
      show (n + 1) / 12 = n / 12
      omega
    have hmonth : (firstOfMonth (n + 1)).month = (firstOfMonth n).month + 1 := by
      show ((n + 1) % 12).toNat + 1 = (n % 12).toNat + 1 + 1
      omega
    have hbound : 1 ≤ (firstOfMonth n).month ∧ (firstOfMonth n).month < 12 := by
      show 1 ≤ (n % 12).toNat + 1 ∧ (n % 12).toNat + 1 < 12
      omega
    have hall : ∀ leap : Bool, ∀ month < 12, 1 ≤ month →
        daysBeforeMonth leap (month + 1) = daysBeforeMonth leap month + daysInMonth leap month := by decide
    have hnext := hall (isLeapYear (firstOfMonth n).year) _ hbound.2 hbound.1
    unfold Date.toDay
    rw [hyear, hmonth, hnext]
    show _ + _ + ((1 : ℕ) : ℤ) - 1 = _ + _ + ((1 : ℕ) : ℤ) - 1 + _
    omega

theorem toDay_firstOfMonth_lt_succ (n : ℤ) : (firstOfMonth n).toDay < (firstOfMonth (n + 1)).toDay := by
  have hall : ∀ leap : Bool, ∀ month ≤ 12, 1 ≤ month → 0 < daysInMonth leap month := by decide
  have hpos := hall (isLeapYear (firstOfMonth n).year) (firstOfMonth n).month
    (show (n % 12).toNat + 1 ≤ 12 by omega) (show 1 ≤ (n % 12).toNat + 1 by omega)
  rw [toDay_firstOfMonth_succ]
  omega

/-- A day lies in its month. -/
theorem Date.toDay_mem_month {d : Date} (h : d.Valid) : (firstOfMonth d.monthNumber).toDay ≤ d.toDay ∧
    d.toDay < (firstOfMonth (d.monthNumber + 1)).toDay := by
  have hpos := h.day_pos
  have hle := h.day_le
  rw [toDay_firstOfMonth_succ, firstOfMonth_monthNumber h]
  unfold toDay
  dsimp only
  omega

/-- A day lies in its year. -/
theorem Date.toDay_mem_year {d : Date} (h : d.Valid) : newYear d.year ≤ d.toDay ∧ d.toDay < newYear (d.year + 1) := by
  have hpos := h.day_pos
  have hle := h.day_le
  have hyear := daysBeforeMonth_le_year (isLeapYear d.year) h.month_pos h.month_le
  have hlength : daysInYear (yearOfCycle d.year) = if isLeapYear d.year then 366 else 365 := rfl
  rw [← hlength] at hyear
  rw [newYear_succ]
  unfold toDay
  omega

/-! ### Periods -/

theorem midnight_le_iff {m n : ℤ} : TimeZone.midnight m ≤ TimeZone.midnight n ↔ m ≤ n := by
  unfold TimeZone.midnight
  rw [mul_le_mul_iff_right₀ (by norm_num), Int.cast_le]

theorem lt_midnight_succ_iff {n : ℤ} {w : WallTime} : w < TimeZone.midnight n ↔ TimeZone.dayNumber w < n := by
  rw [← not_le, ← TimeZone.le_dayNumber_iff, not_le]

/-- Periods of whole days. -/
def ofDays (start index : ℤ → ℤ) (hlt : ∀ n, start n < start (n + 1))
    (hmem : ∀ day, start (index day) ≤ day ∧ day < start (index day + 1)) : Periods where
  start n := TimeZone.midnight (start n)
  index w := index (TimeZone.dayNumber w)
  start_lt_succ n := lt_of_not_ge fun hle => absurd (midnight_le_iff.mp hle) (not_le.mpr (hlt n))
  start_index_le w := (TimeZone.le_dayNumber_iff _ _).mp (hmem (TimeZone.dayNumber w)).1
  lt_start_succ w := lt_midnight_succ_iff.mpr (hmem (TimeZone.dayNumber w)).2

def hours : Periods where
  start n := 3600 * n
  index w := ⌊w / 3600⌋
  start_lt_succ n := by
    push_cast
    linarith
  start_index_le w := by
    have h := Int.floor_le (w / 3600)
    rw [le_div_iff₀ (by norm_num)] at h
    linarith
  lt_start_succ w := by
    have h := Int.lt_floor_add_one (w / 3600)
    rw [div_lt_iff₀ (by norm_num)] at h
    push_cast
    linarith

def days : Periods := ofDays id id (fun _ => lt_add_one _) fun _ => ⟨le_rfl, lt_add_one _⟩

def months : Periods :=
  ofDays (fun n => (firstOfMonth n).toDay) (fun day => (Date.ofDay day).monthNumber) toDay_firstOfMonth_lt_succ
    fun day => by
      have h := Date.toDay_mem_month (Date.valid_ofDay day)
      rwa [Date.toDay_ofDay] at h

def years : Periods :=
  ofDays newYear (fun day => (Date.ofDay day).year) newYear_lt_succ fun day => by
    have h := Date.toDay_mem_year (Date.valid_ofDay day)
    rwa [Date.toDay_ofDay] at h

end EnergyCore.Calendar
