import EnergyCore.Charging.EvaluateStep
import Mathlib.Tactic.Ring

/-!
# The ramp and the target clamp

`applyRamp` moves a current by at most one step towards a target and never past it; `clampTarget` gives
zero or a current within the configured bounds. The state machine's currents are built from these two
functions alone, so the bound theorems and the delivery theorems rest on the lemmas of this file.
-/

namespace EnergyCore.Charging

/-- The increase step of the ramp, doubled when the optimizer's reason is urgent. -/
def increaseStepA (cfg : ChargingConfig) (urgent : Bool) : ℚ :=
  cfg.maxCurrentIncreasePerStepA * (if urgent then 2 else 1)

theorem increaseStepA_pos {cfg : ChargingConfig} (h : 0 < cfg.maxCurrentIncreasePerStepA)
    (urgent : Bool) : 0 < increaseStepA cfg urgent := by
  cases urgent <;> simp [increaseStepA] <;> linarith

theorem increaseStepA_nonneg {cfg : ChargingConfig} (h : 0 ≤ cfg.maxCurrentIncreasePerStepA)
    (urgent : Bool) : 0 ≤ increaseStepA cfg urgent := by
  cases urgent <;> simp [increaseStepA] <;> linarith

theorem applyRamp_up {current target : ℚ} (cfg : ChargingConfig) (urgent : Bool) (h : current < target) :
    applyRamp current target cfg urgent = min target (current + increaseStepA cfg urgent) := by
  rw [applyRamp, if_pos h]
  rfl

theorem applyRamp_down {current target : ℚ} (cfg : ChargingConfig) (urgent : Bool) (h : target < current) :
    applyRamp current target cfg urgent = max target (current - cfg.maxCurrentDecreasePerStepA) := by
  rw [applyRamp, if_neg (not_lt.mpr h.le), if_pos h]

@[simp] theorem applyRamp_self (current : ℚ) (cfg : ChargingConfig) (urgent : Bool) :
    applyRamp current current cfg urgent = current := by
  rw [applyRamp, if_neg (lt_irrefl _), if_neg (lt_irrefl _)]

/-- Upwards the ramp stays at or below its target. -/
theorem applyRamp_le_target {current target : ℚ} (cfg : ChargingConfig) (urgent : Bool)
    (h : current ≤ target) : applyRamp current target cfg urgent ≤ target := by
  rcases h.lt_or_eq with h | rfl
  · rw [applyRamp_up cfg urgent h]
    exact min_le_left _ _
  · exact (applyRamp_self _ cfg urgent).le

/-- Downwards the ramp stays at or above its target. -/
theorem target_le_applyRamp {current target : ℚ} (cfg : ChargingConfig) (urgent : Bool)
    (h : target ≤ current) : target ≤ applyRamp current target cfg urgent := by
  rcases h.lt_or_eq with h | rfl
  · rw [applyRamp_down cfg urgent h]
    exact le_max_left _ _
  · exact (applyRamp_self _ cfg urgent).ge

/-- The ramp splits the distance to its target: what it moves and what is left add up to it. -/
theorem applyRamp_gap (current target : ℚ) {cfg : ChargingConfig} (urgent : Bool)
    (hup : 0 ≤ cfg.maxCurrentIncreasePerStepA) (hdown : 0 ≤ cfg.maxCurrentDecreasePerStepA) :
    |target - applyRamp current target cfg urgent| + |applyRamp current target cfg urgent - current|
      = |target - current| := by
  have hstep := increaseStepA_nonneg hup urgent
  rcases lt_trichotomy current target with h | rfl | h
  · have hle := applyRamp_le_target cfg urgent h.le
    have hge : current ≤ applyRamp current target cfg urgent := by
      rw [applyRamp_up cfg urgent h]
      exact le_min h.le (by linarith)
    rw [abs_of_nonneg (sub_nonneg.mpr hle), abs_of_nonneg (sub_nonneg.mpr hge), abs_of_nonneg (sub_nonneg.mpr h.le)]
    ring
  · rw [applyRamp_self, sub_self, abs_zero, add_zero]
  · have hge := target_le_applyRamp cfg urgent h.le
    have hle : applyRamp current target cfg urgent ≤ current := by
      rw [applyRamp_down cfg urgent h]
      exact max_le h.le (by linarith)
    rw [abs_of_nonpos (sub_nonpos.mpr hge), abs_of_nonpos (sub_nonpos.mpr hle), abs_of_nonpos (sub_nonpos.mpr h.le)]
    ring

/-- The ramp keeps a current above any bound that the current and the target keep. -/
theorem le_applyRamp {current target lo : ℚ} {cfg : ChargingConfig} (urgent : Bool)
    (hup : 0 ≤ cfg.maxCurrentIncreasePerStepA) (hc : lo ≤ current) (ht : lo ≤ target) :
    lo ≤ applyRamp current target cfg urgent := by
  have hstep := increaseStepA_nonneg hup urgent
  rcases lt_or_ge current target with h | h
  · rw [applyRamp_up cfg urgent h]
    exact le_min ht (by linarith)
  · exact ht.trans (target_le_applyRamp cfg urgent h)

/-- A clamped target is zero or lies within the configured bounds. -/
theorem clampTarget_bounds {target : ℚ} {cfg : ChargingConfig} (h : 0 < clampTarget target cfg) :
    cfg.minCurrentA ≤ clampTarget target cfg ∧ clampTarget target cfg ≤ cfg.maxCurrentA := by
  simp only [clampTarget] at h ⊢
  split_ifs at h ⊢ with hpos hmin
  · exact absurd h (lt_irrefl 0)
  · exact absurd h (lt_irrefl 0)
  · exact ⟨not_lt.mp hmin, min_le_right _ _⟩

/-- A target within the bounds passes the clamp unchanged. -/
theorem clampTarget_of_mem {target : ℚ} {cfg : ChargingConfig} (hpos : 0 < target)
    (hmin : cfg.minCurrentA ≤ target) (hmax : target ≤ cfg.maxCurrentA) : clampTarget target cfg = target := by
  simp only [clampTarget]
  rw [if_neg (not_le.mpr hpos), min_eq_left hmax, if_neg (not_lt.mpr hmin)]

end EnergyCore.Charging
