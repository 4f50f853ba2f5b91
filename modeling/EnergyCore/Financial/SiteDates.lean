import EnergyCore.Financial.PeriodKeys
import EnergyCore.Foundations.Calendar
import EnergyCore.Foundations.TimeZones

/-!
# Dates at a site

Local dates of instants, their texts, and the comparison of dates.

* `fromIsoFormat_dayKey` — the text of a date is read back;
* `onOrAfter_iff` — dates compare as the numbers of their days;
* `year_le_iff` — the dates from a year on.
-/

namespace EnergyCore.Financial

open Calendar TimeZones

/-! ### Dates and day numbers -/

namespace CivilDate

/-- A date that the calendar has. -/
def Valid (d : CivilDate) : Prop := d.day ≤ daysInMonth (isLeap d.year) d.month

theorem Valid.isDate {d : CivilDate} (h : d.Valid) : IsDate d.year d.month d.day :=
  ⟨d.year_pos, d.month_pos, d.month_le, d.day_pos, h⟩

/-- `toordinal`, counted from the epoch. -/
def dayNumber (d : CivilDate) : ℤ := ymd2ord d.year d.month d.day - 719163

/-- The numbers of `date.min` and `date.max`. -/
def minDayNumber : ℤ := -719162

def maxDayNumber : ℤ := 2932896

theorem le_31 {year month day : ℕ} (h : IsDate year month day) : day ≤ 31 := by
  have hall : ∀ leap : Bool, ∀ month ≤ 12, daysInMonth leap month ≤ 31 := by decide
  exact h.day_le.trans (hall _ month h.month_le)

/-- `date.fromordinal`. -/
def ofOrdinal (n : ℕ) (h : 1 ≤ n ∧ n ≤ 3652059) : CivilDate where
  year := (ord2ymd n).1
  month := (ord2ymd n).2.1
  day := (ord2ymd n).2.2
  year_pos := (isDate_ord2ymd n).year_pos
  year_le := by
    by_contra hnot
    have hlt := ((isDate_ord2ymd n).year_le_iff (show 1 ≤ 10000 by decide)).mp (by omega)
    rw [ymd2ord_ord2ymd h.1] at hlt
    have hdays : daysBeforeYear 10000 = 3652059 := rfl
    omega
  month_pos := (isDate_ord2ymd n).month_pos
  month_le := (isDate_ord2ymd n).month_le
  day_pos := (isDate_ord2ymd n).day_pos
  day_le := le_31 (isDate_ord2ymd n)

/-- The nearest day that `datetime` has. -/
def clampDay (n : ℤ) : ℤ := max minDayNumber (min n maxDayNumber)

/-- The date of a day; days outside the range of `datetime` are not met. -/
def ofDayNumber (n : ℤ) : CivilDate :=
  ofOrdinal (clampDay n + 719163).toNat (by unfold clampDay minDayNumber maxDayNumber; omega)

theorem valid_ofDayNumber (n : ℤ) : (ofDayNumber n).Valid := (isDate_ord2ymd _).day_le

theorem dayNumber_ofDayNumber (n : ℤ) : (ofDayNumber n).dayNumber = clampDay n := by
  have hord : ymd2ord (ofDayNumber n).year (ofDayNumber n).month (ofDayNumber n).day = (clampDay n + 719163).toNat :=
    ymd2ord_ord2ymd (by unfold clampDay minDayNumber maxDayNumber; omega)
  rw [dayNumber, hord]
  unfold clampDay minDayNumber maxDayNumber
  omega

/-- Dates compare as the numbers of their days. -/
theorem dayNumber_lt_of_not_onOrAfter {d e : CivilDate} (hd : d.Valid) (he : e.Valid)
    (h : d.onOrAfter e = false) : d.dayNumber < e.dayNumber := by
  rw [onOrAfter, decide_eq_false_iff_not, not_le, Prod.Lex.toLex_lt_toLex, Prod.Lex.toLex_lt_toLex] at h
  have hlt := ymd2ord_lt hd.isDate he.isDate h
  unfold dayNumber
  omega

theorem onOrAfter_iff {d e : CivilDate} (hd : d.Valid) (he : e.Valid) :
    d.onOrAfter e = true ↔ e.dayNumber ≤ d.dayNumber := by
  constructor
  · intro h
    rw [onOrAfter, decide_eq_true_eq, Prod.Lex.toLex_le_toLex, Prod.Lex.toLex_le_toLex] at h
    rcases h with hyear | ⟨hyear, hmonth | ⟨hmonth, hday⟩⟩
    · have hlt := ymd2ord_lt he.isDate hd.isDate (.inl hyear)
      unfold dayNumber
      omega
    · have hlt := ymd2ord_lt he.isDate hd.isDate (.inr ⟨hyear, .inl hmonth⟩)
      unfold dayNumber
      omega
    · have hyear : e.year = d.year := hyear
      have hmonth : e.month = d.month := hmonth
      have hday : e.day ≤ d.day := hday
      unfold dayNumber
      rw [hyear, hmonth]
      unfold ymd2ord
      omega
  · intro h
    by_contra hnot
    have hlt := dayNumber_lt_of_not_onOrAfter hd he (Bool.eq_false_iff.mpr hnot)
    omega

/-- The number of the first of January. -/
def newYearDay (year : ℕ) : ℤ := (daysBeforeYear year + 1 : ℕ) - 719163

theorem year_le_iff {d : CivilDate} (h : d.Valid) {year : ℕ} (hyear : 1 ≤ year) :
    year ≤ d.year ↔ newYearDay year ≤ d.dayNumber := by
  rw [h.isDate.year_le_iff hyear, dayNumber, newYearDay]
  omega

/-! ### Texts of dates -/

theorem int_twoDigits {n : ℕ} (h : n ≤ 99) : int (String.ofList (twoDigits n)) = some n := by
  have hsome : twoDigits n ≠ [] ∧ (twoDigits n).all Char.isDigit = true := by
    refine ⟨List.cons_ne_nil _ _, ?_⟩
    simp only [twoDigits, List.all_cons, isDigit_digit, List.all_nil, Bool.and_self]
  rw [int, String.toList_ofList, if_pos hsome]
  simp only [twoDigits, List.foldl_cons, List.foldl_nil, digitValue_digit]
  rw [Option.some_inj]
  omega

/-- The date with these numbers, if there is one. -/
def ofFields (year month day : ℕ) : Option CivilDate :=
  if h : (1 ≤ year ∧ year ≤ 9999) ∧ (1 ≤ month ∧ month ≤ 12) ∧ 1 ≤ day ∧
      day ≤ daysInMonth (isLeap year) month then
    some
      { year := year
        month := month
        day := day
        year_pos := h.1.1
        year_le := h.1.2
        month_pos := h.2.1.1
        month_le := h.2.1.2
        day_pos := h.2.2.1
        day_le := le_31 ⟨h.1.1, h.2.1.1, h.2.1.2, h.2.2.1, h.2.2.2⟩ }
  else none

theorem ofFields_eq {d : CivilDate} (h : d.Valid) : ofFields d.year d.month d.day = some d :=
  dif_pos ⟨⟨d.year_pos, d.year_le⟩, ⟨d.month_pos, d.month_le⟩, d.day_pos, h⟩

/-- `date.fromisoformat`, for texts of the form `YYYY-MM-DD`; other texts are refused. -/
def fromIsoFormat (text : String) : Option CivilDate :=
  match text.toList with
  | [y₁, y₂, y₃, y₄, '-', m₁, m₂, '-', d₁, d₂] =>
    (int (String.ofList [y₁, y₂, y₃, y₄])).bind fun year =>
      (int (String.ofList [m₁, m₂])).bind fun month =>
        (int (String.ofList [d₁, d₂])).bind fun day => ofFields year month day
  | _ => none

/-- **The text of a date is read back.** -/
theorem fromIsoFormat_dayKey {d : CivilDate} (h : d.Valid) : fromIsoFormat (dayKey d) = some d := by
  have hday : d.day ≤ 99 := d.day_le.trans (by decide)
  have hmonth : d.month ≤ 99 := d.month_le.trans (by decide)
  have htext : (dayKey d).toList = [digit (d.year / 1000), digit (d.year / 100), digit (d.year / 10),
      digit d.year, '-', digit (d.month / 10), digit d.month, '-', digit (d.day / 10), digit d.day] := by
    rw [dayKey, String.toList_ofList]
    rfl
  unfold fromIsoFormat
  rw [htext]
  show (int (String.ofList (fourDigits d.year))).bind (fun year =>
    (int (String.ofList (twoDigits d.month))).bind fun month =>
      (int (String.ofList (twoDigits d.day))).bind fun day => ofFields year month day) = some d
  rw [int_fourDigits d.year_le, Option.bind_some, int_twoDigits hmonth, Option.bind_some,
    int_twoDigits hday, Option.bind_some, ofFields_eq h]

theorem dayKey_injective {d e : CivilDate} (hd : d.Valid) (he : e.Valid) (h : dayKey d = dayKey e) : d = e := by
  have hread := fromIsoFormat_dayKey hd
  rw [h, fromIsoFormat_dayKey he] at hread
  exact (Option.some_inj.mp hread).symm

end CivilDate

/-! ### Local dates -/

/-- The date of an instant in a time zone. -/
def localDate (zone : TimeZone) (t : Instant) : CivilDate :=
  CivilDate.ofDayNumber (zone.localDay t)

/-- `datetime(year, 1, 1, tzinfo=zone).astimezone(UTC)`. -/
def yearStart (zone : TimeZone) (year : ℕ) : Instant :=
  zone.toUtc (TimeZone.midnight (CivilDate.newYearDay year))

theorem valid_localDate (zone : TimeZone) (t : Instant) : (localDate zone t).Valid :=
  CivilDate.valid_ofDayNumber _

end EnergyCore.Financial
