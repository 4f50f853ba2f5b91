import EnergyCore.Foundations.Clock
import Mathlib.Data.Prod.Lex
import Mathlib.Data.String.Basic

/-!
# Periods and their keys

Days, months and years are identified by the beginning of an ISO date, so that the key of a coarser period
is a prefix of the key of the day.

* `periodOfDay_dayKey` — the key of a period is cut from the key of the day;
* `int_periodKey` — the year is read back from every key.
-/

namespace EnergyCore.Financial

/-! ### Dates -/

/-- A date in the range of `datetime`. -/
structure CivilDate where
  year : ℕ
  month : ℕ
  day : ℕ
  year_pos : 1 ≤ year := by decide
  year_le : year ≤ 9999 := by decide
  month_pos : 1 ≤ month := by decide
  month_le : month ≤ 12 := by decide
  day_pos : 1 ≤ day := by decide
  day_le : day ≤ 31 := by decide
  deriving Repr, DecidableEq

/-- `date >= start`. -/
def CivilDate.onOrAfter (date start : CivilDate) : Bool :=
  decide (toLex (start.year, toLex (start.month, start.day))
    ≤ toLex (date.year, toLex (date.month, date.day)))

inductive PeakPeriod where
  | day
  | month
  | year
  deriving Repr, DecidableEq

/-! ### Digits -/

/-- The last decimal digit. -/
def digit (n : ℕ) : Char := Char.ofNat (48 + n % 10)

def twoDigits (n : ℕ) : List Char := [digit (n / 10), digit n]

def fourDigits (n : ℕ) : List Char :=
  [digit (n / 1000), digit (n / 100), digit (n / 10), digit n]

def digitValue (c : Char) : ℕ := c.toNat - 48

/-- `int(text)` for plain digits; other texts are refused. -/
def int (text : String) : Option ℕ :=
  if text.toList ≠ [] ∧ text.toList.all Char.isDigit then
    some (text.toList.foldl (fun n c => 10 * n + digitValue c) 0)
  else none

theorem isDigit_digit (n : ℕ) : (digit n).isDigit = true := by
  have hall : ∀ m < 10, (Char.ofNat (48 + m)).isDigit = true := by decide
  exact hall _ (Nat.mod_lt n (by decide))

theorem digitValue_digit (n : ℕ) : digitValue (digit n) = n % 10 := by
  have hall : ∀ m < 10, digitValue (Char.ofNat (48 + m)) = m := by decide
  exact hall _ (Nat.mod_lt n (by decide))

theorem int_fourDigits {n : ℕ} (h : n ≤ 9999) : int (String.ofList (fourDigits n)) = some n := by
  have hdigits : (fourDigits n).all Char.isDigit = true := by
    simp only [fourDigits, List.all_cons, isDigit_digit, List.all_nil, Bool.and_self]
  have hsome : fourDigits n ≠ [] ∧ (fourDigits n).all Char.isDigit = true := ⟨List.cons_ne_nil _ _, hdigits⟩
  rw [int, String.toList_ofList, if_pos hsome]
  simp only [fourDigits, List.foldl_cons, List.foldl_nil, digitValue_digit]
  rw [Option.some_inj]
  omega

/-! ### Keys -/

/-- `date.strftime("%Y-%m-%d")`. -/
def dayKey (d : CivilDate) : String :=
  String.ofList (fourDigits d.year ++ '-' :: twoDigits d.month ++ '-' :: twoDigits d.day)

/-- The `strftime` formats `%Y-%m-%d`, `%Y-%m` and `%Y`. -/
def periodKey : PeakPeriod → CivilDate → String
  | .day, d => dayKey d
  | .month, d => String.ofList (fourDigits d.year ++ '-' :: twoDigits d.month)
  | .year, d => String.ofList (fourDigits d.year)

/-- `text[:n]`. -/
def firstChars (n : ℕ) (text : String) : String := String.ofList (text.toList.take n)

/-- The key of a period, cut from the key of a day. -/
def periodOfDay : PeakPeriod → String → String
  | .day, day => day
  | .month, day => firstChars 7 day
  | .year, day => firstChars 4 day

/-- **Coarser keys are prefixes.** -/
theorem periodOfDay_dayKey (period : PeakPeriod) (d : CivilDate) :
    periodOfDay period (dayKey d) = periodKey period d := by
  cases period with
  | day => rfl
  | month =>
    rw [periodOfDay, firstChars, dayKey, String.toList_ofList]
    rfl
  | year =>
    rw [periodOfDay, firstChars, dayKey, String.toList_ofList]
    rfl

/-- `int(key[:4])` is the year. -/
theorem int_periodKey (period : PeakPeriod) (d : CivilDate) :
    int (firstChars 4 (periodKey period d)) = some d.year := by
  have hyear : firstChars 4 (periodKey period d) = String.ofList (fourDigits d.year) := by
    cases period with
    | day =>
      rw [firstChars, periodKey, dayKey, String.toList_ofList]
      rfl
    | month =>
      rw [firstChars, periodKey, String.toList_ofList]
      rfl
    | year =>
      rw [firstChars, periodKey, String.toList_ofList]
      rfl
  rw [hyear, int_fourDigits d.year_le]

end EnergyCore.Financial
