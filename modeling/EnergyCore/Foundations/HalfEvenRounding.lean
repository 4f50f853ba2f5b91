import Mathlib.Data.Rat.Floor
import Mathlib.Algebra.Order.Round
import Mathlib.Tactic.Linarith
import Mathlib.Tactic.FieldSimp

/-!
# Rounding to the nearest, ties to even

`roundHalfEven` rounds a rational to the nearest integer and a tie to the even neighbour; `roundDigits`
rounds to so many decimals.

* `abs_roundDigits_sub_le` — a rounded number is within half a unit of the last decimal;
* `abs_roundDigits_roundDigits_sub_le` — rounding twice is rounding once up to one unit;
* `roundDigits_mono`, `roundDigits_nonneg` — the order and signs are kept;
* `roundDigits_of_grid`, `roundDigits_roundDigits` — numbers already on the grid are kept.
-/

namespace EnergyCore.HalfEvenRounding

def roundHalfEven (x : ℚ) : ℤ :=
  if x - ⌊x⌋ < 1 / 2 then ⌊x⌋
  else if 1 / 2 < x - ⌊x⌋ then ⌊x⌋ + 1
  else if ⌊x⌋ % 2 = 0 then ⌊x⌋ else ⌊x⌋ + 1

/-- `x` rounded to `digits` decimals. -/
def roundDigits (digits : ℕ) (x : ℚ) : ℚ := roundHalfEven (x * 10 ^ digits) / 10 ^ digits

theorem roundHalfEven_intCast (n : ℤ) : roundHalfEven (n : ℚ) = n := by
  have h : (n : ℚ) - ⌊(n : ℚ)⌋ < 1 / 2 := by
    rw [Int.floor_intCast, sub_self]
    norm_num
  rw [roundHalfEven, if_pos h, Int.floor_intCast]

/-- The result is the floor, where at most half is left, or the integer above it. -/
theorem roundHalfEven_cases (x : ℚ) : (roundHalfEven x = ⌊x⌋ ∧ x - ⌊x⌋ ≤ 1 / 2) ∨
      (roundHalfEven x = ⌊x⌋ + 1 ∧ 1 / 2 ≤ x - ⌊x⌋) := by
  unfold roundHalfEven
  split_ifs with hlt hgt heven
  · exact .inl ⟨rfl, hlt.le⟩
  · exact .inr ⟨rfl, hgt.le⟩
  · exact .inl ⟨rfl, not_lt.mp hgt⟩
  · exact .inr ⟨rfl, not_lt.mp hlt⟩

theorem abs_roundHalfEven_sub_le (x : ℚ) : |(roundHalfEven x : ℚ) - x| ≤ 1 / 2 := by
  have hfloor : (⌊x⌋ : ℚ) ≤ x := Int.floor_le x
  have hceil : x < (⌊x⌋ : ℚ) + 1 := Int.lt_floor_add_one x
  rw [abs_le]
  rcases roundHalfEven_cases x with ⟨h, hle⟩ | ⟨h, hge⟩
  · rw [h]
    constructor <;> linarith
  · rw [h, Int.cast_add, Int.cast_one]
    constructor <;> linarith

theorem roundHalfEven_mono {x y : ℚ} (h : x ≤ y) : roundHalfEven x ≤ roundHalfEven y := by
  by_contra hlt
  have hstep : roundHalfEven y + 1 ≤ roundHalfEven x := by omega
  have hcast : (roundHalfEven y : ℚ) + 1 ≤ roundHalfEven x := by exact_mod_cast hstep
  have hx := (abs_le.mp (abs_roundHalfEven_sub_le x)).2
  have hy := (abs_le.mp (abs_roundHalfEven_sub_le y)).1
  -- both are half a unit away from the same number
  have heq : x = y := by linarith
  rw [heq] at hstep
  omega

theorem roundHalfEven_nonneg {x : ℚ} (h : 0 ≤ x) : 0 ≤ roundHalfEven x := by
  have hfloor : 0 ≤ ⌊x⌋ := Int.floor_nonneg.mpr h
  rcases roundHalfEven_cases x with ⟨heq, -⟩ | ⟨heq, -⟩
  · omega
  · omega

/-- Half a unit is still rounded down to zero. -/
theorem roundHalfEven_pos_iff (x : ℚ) : 0 < roundHalfEven x ↔ 1 / 2 < x := by
  have hfloor : (⌊x⌋ : ℚ) ≤ x := Int.floor_le x
  have hceil : x < (⌊x⌋ : ℚ) + 1 := Int.lt_floor_add_one x
  rcases lt_trichotomy ⌊x⌋ 0 with hneg | hzero | hpos
  · have hround : roundHalfEven x ≤ 0 := by
      rcases roundHalfEven_cases x with ⟨h, -⟩ | ⟨h, -⟩ <;> omega
    have hle : (⌊x⌋ : ℚ) ≤ -1 := by exact_mod_cast (show ⌊x⌋ ≤ -1 by omega)
    exact iff_of_false (not_lt.mpr hround) (by linarith)
  · unfold roundHalfEven
    rw [hzero]
    simp only [Int.cast_zero, sub_zero]
    by_cases hlt : x < 1 / 2
    · rw [if_pos hlt]
      exact iff_of_false (by omega) hlt.not_gt
    · rw [if_neg hlt]
      by_cases hgt : 1 / 2 < x
      · rw [if_pos hgt]
        exact iff_of_true (by omega) hgt
      · rw [if_neg hgt, if_pos (by omega)]
        exact iff_of_false (by omega) hgt
  · have hround : 0 < roundHalfEven x := by
      rcases roundHalfEven_cases x with ⟨h, -⟩ | ⟨h, -⟩ <;> omega
    have hone : (1 : ℚ) ≤ ⌊x⌋ := by exact_mod_cast (show 1 ≤ ⌊x⌋ by omega)
    exact iff_of_true hround (by linarith)

theorem roundDigits_pos_iff (digits : ℕ) (x : ℚ) : 0 < roundDigits digits x ↔ 1 / 2 < x * 10 ^ digits := by
  have hpow : (0 : ℚ) < 10 ^ digits := by positivity
  rw [roundDigits, div_pos_iff_of_pos_right hpow, Int.cast_pos, roundHalfEven_pos_iff]

theorem roundDigits_nonneg (digits : ℕ) {x : ℚ} (h : 0 ≤ x) : 0 ≤ roundDigits digits x := by
  have hpow : (0 : ℚ) < 10 ^ digits := by positivity
  have hround : 0 ≤ roundHalfEven (x * 10 ^ digits) := roundHalfEven_nonneg (by positivity)
  unfold roundDigits
  have hcast : (0 : ℚ) ≤ (roundHalfEven (x * 10 ^ digits) : ℚ) := by exact_mod_cast hround
  exact div_nonneg hcast hpow.le

theorem roundDigits_mono (digits : ℕ) {x y : ℚ} (h : x ≤ y) : roundDigits digits x ≤ roundDigits digits y := by
  have hpow : (0 : ℚ) < 10 ^ digits := by positivity
  have hround := roundHalfEven_mono (mul_le_mul_of_nonneg_right h hpow.le)
  exact div_le_div_of_nonneg_right (by exact_mod_cast hround) hpow.le

/-- A rounded number is within half a unit of the last decimal. -/
theorem abs_roundDigits_sub_le (digits : ℕ) (x : ℚ) :
    |roundDigits digits x - x| ≤ 1 / 2 / 10 ^ digits := by
  have hpow : (0 : ℚ) < 10 ^ digits := by positivity
  have hround := abs_roundHalfEven_sub_le (x * 10 ^ digits)
  have heq : roundDigits digits x - x
      = ((roundHalfEven (x * 10 ^ digits) : ℚ) - x * 10 ^ digits) / 10 ^ digits := by
    unfold roundDigits
    field_simp
  rw [heq, abs_div, abs_of_pos hpow]
  exact div_le_div_of_nonneg_right hround hpow.le

/-- Numbers that are half a unit apart are rounded to at most one unit apart. -/
theorem abs_roundDigits_sub_roundDigits_le (digits : ℕ) {x y : ℚ}
    (h : |y - x| ≤ 1 / 2 / 10 ^ digits) :
    |roundDigits digits y - roundDigits digits x| ≤ 1 / 10 ^ digits := by
  have hpow : (0 : ℚ) < 10 ^ digits := by positivity
  have hunit : (0 : ℚ) < 1 / 2 / 10 ^ digits := by positivity
  have htwo : (2 : ℚ) / 10 ^ digits = 4 * (1 / 2 / 10 ^ digits) := by ring
  have hclose := abs_le.mp h
  have hy := abs_le.mp (abs_roundDigits_sub_le digits y)
  have hx := abs_le.mp (abs_roundDigits_sub_le digits x)
  have hlt : |roundDigits digits y - roundDigits digits x| < 2 / 10 ^ digits := by
    rw [abs_lt]
    constructor <;> linarith
  -- both are whole numbers of units, so less than two units apart is at most one
  have heq : roundDigits digits y - roundDigits digits x
      = ((roundHalfEven (y * 10 ^ digits) - roundHalfEven (x * 10 ^ digits) : ℤ) : ℚ)
        / 10 ^ digits := by
    rw [roundDigits, roundDigits, Int.cast_sub, sub_div]
  rw [heq, abs_div, abs_of_pos hpow, ← Int.cast_abs] at hlt ⊢
  have hint : |roundHalfEven (y * 10 ^ digits) - roundHalfEven (x * 10 ^ digits)| < 2 := by
    exact_mod_cast (div_lt_div_iff_of_pos_right hpow).mp hlt
  have hone : |roundHalfEven (y * 10 ^ digits) - roundHalfEven (x * 10 ^ digits)| ≤ 1 := by omega
  exact div_le_div_of_nonneg_right (by exact_mod_cast hone) hpow.le

/-- **Rounding twice.** Rounding to finer decimals first moves the result by at most one unit of the last
decimal. -/
theorem abs_roundDigits_roundDigits_sub_le {digits finer : ℕ} (h : digits ≤ finer) (x : ℚ) :
    |roundDigits digits (roundDigits finer x) - roundDigits digits x| ≤ 1 / 10 ^ digits := by
  have hpow : (0 : ℚ) < 10 ^ digits := by positivity
  refine abs_roundDigits_sub_roundDigits_le digits ((abs_roundDigits_sub_le finer x).trans ?_)
  exact div_le_div_of_nonneg_left (by norm_num) hpow (pow_le_pow_right₀ (by norm_num) h)

/-- A number with no more than so many decimals is kept. -/
theorem roundDigits_of_grid (digits : ℕ) (n : ℤ) :
    roundDigits digits ((n : ℚ) / 10 ^ digits) = (n : ℚ) / 10 ^ digits := by
  have hpow : (10 : ℚ) ^ digits ≠ 0 := by positivity
  rw [roundDigits, div_mul_cancel₀ _ hpow, roundHalfEven_intCast]

theorem roundDigits_roundDigits (digits : ℕ) (x : ℚ) :
    roundDigits digits (roundDigits digits x) = roundDigits digits x :=
  roundDigits_of_grid digits (roundHalfEven (x * 10 ^ digits))

@[simp] theorem roundDigits_zero (digits : ℕ) : roundDigits digits 0 = 0 := by
  have h := roundDigits_of_grid digits 0
  simpa using h

end EnergyCore.HalfEvenRounding
