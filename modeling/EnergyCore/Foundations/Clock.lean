import Mathlib.Data.Rat.Floor
import Mathlib.Tactic.Linarith

/-!
# Instants

An instant is a number of seconds, so that differences of instants are durations and an hour is 3600.
-/

namespace EnergyCore

/-- An instant, in seconds. -/
abbrev Instant := ℚ

/-- The whole hour an instant lies in, as `replace(minute=0, second=0, microsecond=0)` gives it in
UTC. -/
def hourStart (t : Instant) : Instant := 3600 * ⌊t / 3600⌋

theorem hourStart_le (t : Instant) : hourStart t ≤ t := by
  have h : (⌊t / 3600⌋ : ℚ) ≤ t / 3600 := Int.floor_le _
  unfold hourStart
  linarith

theorem lt_hourStart_add (t : Instant) : t < hourStart t + 3600 := by
  have h : t / 3600 < (⌊t / 3600⌋ : ℚ) + 1 := Int.lt_floor_add_one _
  unfold hourStart
  linarith

theorem hourStart_mono {s t : Instant} (h : s ≤ t) : hourStart s ≤ hourStart t := by
  have hfloor : ⌊s / 3600⌋ ≤ ⌊t / 3600⌋ := Int.floor_le_floor (by linarith)
  have hcast : (⌊s / 3600⌋ : ℚ) ≤ ⌊t / 3600⌋ := by exact_mod_cast hfloor
  unfold hourStart
  linarith

/-- A whole hour is the start of every instant within it. -/
theorem hourStart_eq_of_mem {n : ℤ} {t : Instant} (h : 3600 * (n : ℚ) ≤ t)
    (h' : t < 3600 * (n : ℚ) + 3600) : hourStart t = 3600 * n := by
  have hfloor : ⌊t / 3600⌋ = n := by
    rw [Int.floor_eq_iff]
    constructor <;> linarith
  rw [hourStart, hfloor]

end EnergyCore
