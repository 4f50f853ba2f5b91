import Mathlib.Order.SuccPred.Basic
import Mathlib.Tactic.Common

/-!
# The proleptic Gregorian calendar

Dates and their ordinals, where 1 January of year 1 has the ordinal 1, by the algorithms of `datetime`.

* `ymd2ord_ord2ymd` — the date of an ordinal has that ordinal;
* `IsDate.year_le_iff` — the ordinals of a year are those between the new year days;
* `ymd2ord_lt` — ordinals grow with dates.
-/

namespace EnergyCore.Calendar

/-! ### Years -/

def isLeap (year : ℕ) : Bool := decide (year % 4 = 0 ∧ (year % 100 ≠ 0 ∨ year % 400 = 0))

/-- The number of days before 1 January of a year. -/
def daysBeforeYear (year : ℕ) : ℕ :=
  (year - 1) * 365 + (year - 1) / 4 - (year - 1) / 100 + (year - 1) / 400

def daysInYear (year : ℕ) : ℕ := if isLeap year then 366 else 365

/-- A year by its cycles of 400, 100 and 4 years. -/
def yearOfCycles (n400 n100 n4 n1 : ℕ) : ℕ := n400 * 400 + 1 + n100 * 100 + n4 * 4 + n1

theorem exists_cycles {year : ℕ} (h : 1 ≤ year) : ∃ a b c d, b < 4 ∧ c < 25 ∧ d < 4 ∧ year = yearOfCycles a b c d := by
  refine ⟨(year - 1) / 400, (year - 1) % 400 / 100, (year - 1) % 100 / 4, (year - 1) % 4, ?_, ?_, ?_, ?_⟩
  · omega
  · omega
  · omega
  · unfold yearOfCycles
    omega

section

variable {a b c d : ℕ} (hb : b < 4) (hc : c < 25) (hd : d < 4)

include hb hc hd

theorem daysBeforeYear_cycles :
    daysBeforeYear (yearOfCycles a b c d) = a * 146097 + b * 36524 + c * 1461 + d * 365 := by
  have hpred : yearOfCycles a b c d - 1 = 400 * a + 100 * b + 4 * c + d := by
    unfold yearOfCycles
    omega
  have h4 : (400 * a + 100 * b + 4 * c + d) / 4 = 100 * a + 25 * b + c := by omega
  have h100 : (400 * a + 100 * b + 4 * c + d) / 100 = 4 * a + b := by omega
  have h400 : (400 * a + 100 * b + 4 * c + d) / 400 = a := by omega
  rw [daysBeforeYear, hpred, h4, h100, h400]
  omega

theorem isLeap_cycles : isLeap (yearOfCycles a b c d) = decide (d = 3 ∧ (c ≠ 24 ∨ b = 3)) := by
  have h4 : yearOfCycles a b c d % 4 = (d + 1) % 4 := by
    unfold yearOfCycles
    omega
  have h100 : yearOfCycles a b c d % 100 = (4 * c + d + 1) % 100 := by
    unfold yearOfCycles
    omega
  have h400 : yearOfCycles a b c d % 400 = (100 * b + 4 * c + d + 1) % 400 := by
    unfold yearOfCycles
    omega
  rw [isLeap, h4, h100, h400, decide_eq_decide]
  omega

theorem daysInYear_cycles : daysInYear (yearOfCycles a b c d) = if d = 3 ∧ (c ≠ 24 ∨ b = 3) then 366 else 365 := by
  rw [daysInYear, isLeap_cycles hb hc hd]
  simp only [decide_eq_true_eq]

end

theorem daysBeforeYear_succ {year : ℕ} (h : 1 ≤ year) :
    daysBeforeYear (year + 1) = daysBeforeYear year + daysInYear year := by
  obtain ⟨a, b, c, d, hb, hc, hd, rfl⟩ := exists_cycles h
  rw [daysBeforeYear_cycles hb hc hd, daysInYear_cycles hb hc hd]
  by_cases hd3 : d = 3
  · by_cases hc24 : c = 24
    · by_cases hb3 : b = 3
      · rw [show yearOfCycles a b c d + 1 = yearOfCycles (a + 1) 0 0 0 by unfold yearOfCycles; omega,
          daysBeforeYear_cycles (by omega) (by omega) (by omega), if_pos ⟨hd3, .inr hb3⟩]
        omega
      · rw [show yearOfCycles a b c d + 1 = yearOfCycles a (b + 1) 0 0 by unfold yearOfCycles; omega,
          daysBeforeYear_cycles (by omega) (by omega) (by omega), if_neg (by omega)]
        omega
    · rw [show yearOfCycles a b c d + 1 = yearOfCycles a b (c + 1) 0 by unfold yearOfCycles; omega,
        daysBeforeYear_cycles (by omega) (by omega) (by omega), if_pos ⟨hd3, .inl hc24⟩]
      omega
  · rw [show yearOfCycles a b c d + 1 = yearOfCycles a b c (d + 1) by unfold yearOfCycles; omega,
      daysBeforeYear_cycles hb hc (by omega), if_neg (by omega)]
    omega

theorem daysBeforeYear_mono {year year' : ℕ} (hyear : 1 ≤ year) (h : year ≤ year') :
    daysBeforeYear year ≤ daysBeforeYear year' := by
  induction h with
  | refl => exact le_rfl
  | step hle ih =>
    rw [daysBeforeYear_succ (hyear.trans hle)]
    omega

/-- The year of a day, counted from 0, and the day within the year. -/
def yearAndDay (n : ℕ) : ℕ × ℕ :=
  let n400 := n / 146097
  let n := n % 146097
  let n100 := n / 36524
  let n := n % 36524
  let n4 := n / 1461
  let n := n % 1461
  let n1 := n / 365
  let year := yearOfCycles n400 n100 n4 n1
  -- the last day of a cycle of 4 or of 400 years would start another year or century
  if n1 = 4 ∨ n100 = 4 then (year - 1, 365) else (year, n % 365)

/-- A quotient and its remainder are read back. -/
theorem div_mod_of_lt {m x : ℕ} (h : x < m) (q : ℕ) : (q * m + x) / m = q ∧ (q * m + x) % m = x := by
  have hm : 0 < m := Nat.zero_lt_of_lt h
  constructor
  · rw [Nat.mul_comm, Nat.mul_add_div hm, Nat.div_eq_of_lt h, Nat.add_zero]
  · rw [Nat.mul_comm, Nat.mul_add_mod, Nat.mod_eq_of_lt h]

theorem yearAndDay_spec (n : ℕ) : 1 ≤ (yearAndDay n).1 ∧ daysBeforeYear (yearAndDay n).1 + (yearAndDay n).2 = n ∧
      (yearAndDay n).2 < daysInYear (yearAndDay n).1 := by
  obtain ⟨a, r, hr, rfl⟩ : ∃ a r, r < 146097 ∧ n = a * 146097 + r := ⟨n / 146097, n % 146097, by omega, by omega⟩
  obtain ⟨b, s, hs, rfl⟩ : ∃ b s, s < 36524 ∧ r = b * 36524 + s := ⟨r / 36524, r % 36524, by omega, by omega⟩
  obtain ⟨c, t, ht, rfl⟩ : ∃ c t, t < 1461 ∧ s = c * 1461 + t := ⟨s / 1461, s % 1461, by omega, by omega⟩
  obtain ⟨d, u, hu, rfl⟩ : ∃ d u, u < 365 ∧ t = d * 365 + u := ⟨t / 365, t % 365, by omega, by omega⟩
  obtain ⟨ha, hra⟩ := div_mod_of_lt hr a
  obtain ⟨hb, hrb⟩ := div_mod_of_lt hs b
  obtain ⟨hc, hrc⟩ := div_mod_of_lt ht c
  obtain ⟨hd, hrd⟩ := div_mod_of_lt hu d
  simp only [yearAndDay, ha, hra, hb, hrb, hc, hrc, hd, hrd]
  by_cases hlast : d = 4 ∨ b = 4
  · rw [if_pos hlast]
    by_cases hd4 : d = 4
    · have hyear : yearOfCycles a b c d - 1 = yearOfCycles a b c 3 := by
        unfold yearOfCycles
        omega
      simp only [hyear]
      rw [daysBeforeYear_cycles (by omega) (by omega) (by omega),
        daysInYear_cycles (by omega) (by omega) (by omega), if_pos (by omega)]
      unfold yearOfCycles
      omega
    · have hyear : yearOfCycles a b c d - 1 = yearOfCycles a 3 24 3 := by
        unfold yearOfCycles
        omega
      simp only [hyear]
      rw [daysBeforeYear_cycles (by omega) (by omega) (by omega),
        daysInYear_cycles (by omega) (by omega) (by omega), if_pos (by omega)]
      unfold yearOfCycles
      omega
  · rw [if_neg hlast]
    dsimp only
    rw [daysBeforeYear_cycles (by omega) (by omega) (by omega), daysInYear_cycles (by omega) (by omega) (by omega)]
    refine ⟨?_, by omega, ?_⟩
    · unfold yearOfCycles
      omega
    · split_ifs
      · omega
      · omega

/-! ### Months -/

def daysInMonth (leap : Bool) (month : ℕ) : ℕ :=
  if month = 2 ∧ leap then 29
  else [31, 28, 31, 30, 31, 30, 31, 31, 30, 31, 30, 31].getD (month - 1) 0

/-- The number of days before the first of a month. -/
def daysBeforeMonth (leap : Bool) (month : ℕ) : ℕ :=
  [0, 31, 59, 90, 120, 151, 181, 212, 243, 273, 304, 334].getD (month - 1) 0
    + if month > 2 ∧ leap then 1 else 0

/-- The month and the day of a day within the year. -/
def monthAndDay (leap : Bool) (n : ℕ) : ℕ × ℕ :=
  -- the estimate is right or one too large
  let month := (n + 50) / 32
  if daysBeforeMonth leap month > n then (month - 1, n - daysBeforeMonth leap (month - 1) + 1)
  else (month, n - daysBeforeMonth leap month + 1)

theorem monthAndDay_spec (leap : Bool) {n : ℕ} (h : n < if leap then 366 else 365) : let md := monthAndDay leap n
    1 ≤ md.1 ∧ md.1 ≤ 12 ∧ 1 ≤ md.2 ∧ md.2 ≤ daysInMonth leap md.1 ∧
      daysBeforeMonth leap md.1 + md.2 = n + 1 := by
  have hall : ∀ leap : Bool, ∀ n < 366, (n < if leap then 366 else 365) →
      1 ≤ (monthAndDay leap n).1 ∧ (monthAndDay leap n).1 ≤ 12 ∧ 1 ≤ (monthAndDay leap n).2 ∧
        (monthAndDay leap n).2 ≤ daysInMonth leap (monthAndDay leap n).1 ∧
        daysBeforeMonth leap (monthAndDay leap n).1 + (monthAndDay leap n).2 = n + 1 := by
    decide +kernel
  refine hall leap n ?_ h
  split_ifs at h
  · exact h
  · omega

theorem daysBeforeMonth_lt (leap : Bool) {month month' : ℕ} (hpos : 1 ≤ month) (h : month < month')
    (hle : month' ≤ 12) : daysBeforeMonth leap month + daysInMonth leap month ≤ daysBeforeMonth leap month' := by
  have hall : ∀ leap : Bool, ∀ month' ≤ 12, ∀ month < month', 1 ≤ month →
      daysBeforeMonth leap month + daysInMonth leap month ≤ daysBeforeMonth leap month' := by
    decide
  exact hall leap month' hle month h hpos

theorem daysBeforeMonth_le_year (leap : Bool) {month : ℕ} (hpos : 1 ≤ month) (hle : month ≤ 12) :
    daysBeforeMonth leap month + daysInMonth leap month ≤ if leap then 366 else 365 := by
  have hall : ∀ leap : Bool, ∀ month ≤ 12, 1 ≤ month →
      daysBeforeMonth leap month + daysInMonth leap month ≤ if leap then 366 else 365 := by decide
  exact hall leap month hle hpos

/-! ### Ordinals -/

/-- A date that exists. -/
structure IsDate (year month day : ℕ) : Prop where
  year_pos : 1 ≤ year
  month_pos : 1 ≤ month
  month_le : month ≤ 12
  day_pos : 1 ≤ day
  day_le : day ≤ daysInMonth (isLeap year) month

def ymd2ord (year month day : ℕ) : ℕ :=
  daysBeforeYear year + daysBeforeMonth (isLeap year) month + day

def ord2ymd (n : ℕ) : ℕ × ℕ × ℕ :=
  let year := (yearAndDay (n - 1)).1
  (year, monthAndDay (isLeap year) (yearAndDay (n - 1)).2)

theorem isDate_ord2ymd (n : ℕ) : IsDate (ord2ymd n).1 (ord2ymd n).2.1 (ord2ymd n).2.2 := by
  obtain ⟨hyear, -, hday⟩ := yearAndDay_spec (n - 1)
  obtain ⟨hm, hm', hd, hd', -⟩ := monthAndDay_spec (isLeap (yearAndDay (n - 1)).1) hday
  exact ⟨hyear, hm, hm', hd, hd'⟩

theorem ymd2ord_ord2ymd {n : ℕ} (h : 1 ≤ n) : ymd2ord (ord2ymd n).1 (ord2ymd n).2.1 (ord2ymd n).2.2 = n := by
  obtain ⟨-, hyear, hday⟩ := yearAndDay_spec (n - 1)
  obtain ⟨-, -, -, -, hmonth⟩ := monthAndDay_spec (isLeap (yearAndDay (n - 1)).1) hday
  show daysBeforeYear (yearAndDay (n - 1)).1 + daysBeforeMonth (isLeap (yearAndDay (n - 1)).1)
      (monthAndDay (isLeap (yearAndDay (n - 1)).1) (yearAndDay (n - 1)).2).1
    + (monthAndDay (isLeap (yearAndDay (n - 1)).1) (yearAndDay (n - 1)).2).2 = n
  omega

/-- A year begins after the days before it and ends before the next. -/
theorem IsDate.ymd2ord_mem {year month day : ℕ} (h : IsDate year month day) :
    daysBeforeYear year < ymd2ord year month day ∧ ymd2ord year month day ≤ daysBeforeYear (year + 1) := by
  have hmonth := daysBeforeMonth_le_year (isLeap year) h.month_pos h.month_le
  have hlength : daysInYear year = if isLeap year then 366 else 365 := rfl
  rw [← hlength] at hmonth
  rw [ymd2ord, daysBeforeYear_succ h.year_pos]
  have hpos := h.day_pos
  have hle := h.day_le
  omega

/-- **The year of an ordinal.** -/
theorem IsDate.year_le_iff {year month day : ℕ} (h : IsDate year month day) {y : ℕ} (hy : 1 ≤ y) :
    y ≤ year ↔ daysBeforeYear y < ymd2ord year month day := by
  obtain ⟨hlo, hhi⟩ := h.ymd2ord_mem
  constructor
  · intro hle
    exact lt_of_le_of_lt (daysBeforeYear_mono hy hle) hlo
  · intro hlt
    by_contra hnot
    have hmono := daysBeforeYear_mono (show 1 ≤ year + 1 by omega) (show year + 1 ≤ y by omega)
    omega

/-- **Ordinals grow with dates.** -/
theorem ymd2ord_lt {y m d y' m' d' : ℕ} (h : IsDate y m d) (h' : IsDate y' m' d')
    (hlt : y < y' ∨ y = y' ∧ (m < m' ∨ m = m' ∧ d < d')) : ymd2ord y m d < ymd2ord y' m' d' := by
  rcases hlt with hyear | ⟨rfl, hmonth | ⟨rfl, hday⟩⟩
  · obtain ⟨-, hhi⟩ := h.ymd2ord_mem
    obtain ⟨hlo, -⟩ := h'.ymd2ord_mem
    have hmono := daysBeforeYear_mono (show 1 ≤ y + 1 by omega) (show y + 1 ≤ y' by omega)
    omega
  · have hmonths := daysBeforeMonth_lt (isLeap y) h.month_pos hmonth h'.month_le
    have hle := h.day_le
    have hpos := h'.day_pos
    unfold ymd2ord
    omega
  · unfold ymd2ord
    omega

end EnergyCore.Calendar
