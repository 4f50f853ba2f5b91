import EnergyCore.Financial.SiteDates
import EnergyCore.Foundations.HalfEvenRounding
import Mathlib.Data.List.Sort

/-!
# Calibration of the solar forecast

`build_model_profile` over the observations of past days: their errors in three windows, the state of the
model, and the correction factor, an exponential average of the median ratio of actual to forecast energy.

* `averaged_between`, `averaged_eq_self_iff` — a clamped exponential average approaches the clamped target
  and stops there only.
* `buildModelProfile_ok_iff` — when a profile is built at all.
* `recalibration` — a profile built again from its own result.
-/

namespace EnergyCore.SolarForecast

open Financial HalfEvenRounding

/-! ### Settings and observations -/

/-- The settings that the calibration reads, with what is checked of the average. -/
structure SolarForecastSettings where
  minSamplesPreliminary : ℕ := 7
  minSamplesCalibrated : ℕ := 30
  minSamplesMature : ℕ := 60
  mapeMinActualKwh : ℚ := 1
  minDataCompletenessPct : ℚ := 95
  correctionFactorMin : ℚ := 7 / 10
  correctionFactorMax : ℚ := 13 / 10
  outlierRatioMin : ℚ := 3 / 10
  outlierRatioMax : ℚ := 17 / 10
  correctionEmaAlpha : ℚ := 15 / 100
  alpha_pos : 0 < correctionEmaAlpha := by norm_num
  alpha_le : correctionEmaAlpha ≤ 1 := by norm_num

/-- What the calibration reads of an observation. -/
structure SolarForecastObservation where
  forecastDate : CivilDate
  forecastKwhRaw : Option ℚ := none
  forecastKwhCorrected : Option ℚ := none
  actualKwh : Option ℚ := none
  dataCompletenessPct : Option ℚ := none
  trainingEligible : Bool := true
  deriving Repr, DecidableEq

inductive ModelState where
  | noData
  | learning
  | preliminary
  | calibrated
  | mature
  deriving Repr, DecidableEq

/-- `resolve_model_state`. -/
def resolveModelState (settings : SolarForecastSettings) (sampleCount : ℕ) : ModelState :=
  if sampleCount = 0 then .noData
  else if sampleCount < settings.minSamplesPreliminary then .learning
  else if sampleCount < settings.minSamplesCalibrated then .preliminary
  else if sampleCount < settings.minSamplesMature then .calibrated
  else .mature

structure SolarForecastModelProfile where
  siteId : ℕ
  modelVersion : String := "solar-forecast-v2"
  historicalSamples : ℕ := 0
  modelState : ModelState := .noData
  mape7d : Option ℚ := none
  mape30d : Option ℚ := none
  mape90d : Option ℚ := none
  mape7dValidDays : ℕ := 0
  mape30dValidDays : ℕ := 0
  mape90dValidDays : ℕ := 0
  mae7d : Option ℚ := none
  mae30d : Option ℚ := none
  mae90d : Option ℚ := none
  bias7d : Option ℚ := none
  bias30d : Option ℚ := none
  bias90d : Option ℚ := none
  wape7d : Option ℚ := none
  wape30d : Option ℚ := none
  wape90d : Option ℚ := none
  rmse7d : Option ℚ := none
  rmse30d : Option ℚ := none
  rmse90d : Option ℚ := none
  r27d : Option ℚ := none
  r230d : Option ℚ := none
  r290d : Option ℚ := none
  rawMae30d : Option ℚ := none
  correctedMae30d : Option ℚ := none
  improvementPct30d : Option ℚ := none
  correctionFactor : ℚ := 1
  confidenceScore : Option ℚ := none
  seasonalFactors : List (ℕ × ℚ) := []
  lastTrainingAt : Option Instant := none
  lastEvaluationAt : Option Instant := none
  createdAt : Option Instant := none
  updatedAt : Option Instant := none
  deriving Repr, DecidableEq

/-! ### Errors of the forecasts -/

inductive ZeroDivisionError where
  | divisionByZero
  deriving Repr, DecidableEq

def mean (values : List ℚ) : Option ℚ :=
  if values = [] then none else some (values.sum / values.length)

namespace SolarForecastObservation

variable (obs : SolarForecastObservation)

def forecast (useRaw : Bool) : Option ℚ :=
  if useRaw then obs.forecastKwhRaw else obs.forecastKwhCorrected

/-- The actual energy with the forecast, where there are both. -/
def compared (useRaw : Bool) : Option (ℚ × ℚ) :=
  obs.actualKwh.bind fun actual => (obs.forecast useRaw).map fun forecast => (actual, forecast)

def usable : Bool := obs.trainingEligible && obs.actualKwh.isSome

end SolarForecastObservation

open SolarForecastObservation

def comparisons (useRaw : Bool) (observations : List SolarForecastObservation) : List (ℚ × ℚ) :=
  observations.filterMap (compared · useRaw)

def computeMae (useRaw : Bool) (observations : List SolarForecastObservation) : Option ℚ :=
  mean ((comparisons useRaw observations).map fun p => |p.1 - p.2|)

/-- `compute_mape`: a day without any energy cannot be divided by, if the settings let it pass. -/
def computeMape (settings : SolarForecastSettings) (observations : List SolarForecastObservation) :
    Except ZeroDivisionError (Option ℚ × ℕ) :=
  let pairs := (comparisons false observations).filter fun p =>
    decide (settings.mapeMinActualKwh ≤ p.1)
  if pairs.any fun p => decide (p.1 = 0) then .error .divisionByZero
  else .ok (mean (pairs.map fun p => |p.1 - p.2| / p.1 * 100), pairs.length)

/-- The comparisons of the days with energy. -/
def productive (observations : List SolarForecastObservation) : List (ℚ × ℚ) :=
  (comparisons false observations).filter fun p => decide (0 < p.1)

/-- A sum of errors in percent of the actual energy. -/
def relativeToActual (errors : ℚ × ℚ → ℚ) (observations : List SolarForecastObservation) : Option ℚ :=
  let sumActual := ((productive observations).map Prod.fst).sum
  if sumActual ≤ 0 then none
  else some (((productive observations).map errors).sum / sumActual * 100)

def computeWape (observations : List SolarForecastObservation) : Option ℚ :=
  relativeToActual (fun p => |p.1 - p.2|) observations

def computeBias (observations : List SolarForecastObservation) : Option ℚ :=
  relativeToActual (fun p => p.2 - p.1) observations

def computeR2 (observations : List SolarForecastObservation) : Option ℚ :=
  let pairs := comparisons false observations
  let meanActual := (pairs.map Prod.fst).sum / pairs.length
  let total := (pairs.map fun p => (p.1 - meanActual) ^ 2).sum
  let residual := (pairs.map fun p => (p.1 - p.2) ^ 2).sum
  if pairs.length < 2 then none
  else if total ≤ 0 then none
  else some (1 - residual / total)

structure WindowMetrics where
  mae : Option ℚ
  mape : Option ℚ
  bias : Option ℚ
  wape : Option ℚ
  rmse : Option ℚ
  r2 : Option ℚ
  validMapeDays : ℕ
  sampleCount : ℕ
  deriving Repr, DecidableEq

structure BenchmarkMetrics where
  rawMae : Option ℚ
  correctedMae : Option ℚ
  improvementPct : Option ℚ
  deriving Repr, DecidableEq

def computeBenchmark (observations : List SolarForecastObservation) : BenchmarkMetrics :=
  let eligible := observations.filter usable
  let rawMae := computeMae true eligible
  let correctedMae := computeMae false eligible
  { rawMae := rawMae
    correctedMae := correctedMae
    improvementPct := rawMae.bind fun raw => correctedMae.bind fun corrected =>
      if raw > 0 then some ((raw - corrected) / raw * 100) else none }

/-! ### The correction factor -/

/-- `now.date()`. -/
def utcDate (now : Instant) : CivilDate := CivilDate.ofDayNumber ⌊now / 86400⌋

/-- `recency_weight`. -/
def recencyWeight (ageDays : ℤ) (month sampleMonth : ℕ) : ℚ :=
  let base : ℚ :=
    if ageDays ≤ 7 then 1 else if ageDays ≤ 30 then 6 / 10
    else if ageDays ≤ 365 then 3 / 10 else 15 / 100
  let apart := max month sampleMonth - min month sampleMonth
  base * (1 + if min apart (12 - apart) ≤ 1 then 3 / 10 else 0)

def isOutlierRatio (settings : SolarForecastSettings) (ratio : ℚ) : Bool :=
  decide (ratio < settings.outlierRatioMin) || decide (ratio > settings.outlierRatioMax)

/-- The ratio of an observation that the factor is computed from. -/
def usableRatio (settings : SolarForecastSettings) (obs : SolarForecastObservation) : Option ℚ :=
  if ¬ obs.trainingEligible then none
  else
    (obs.compared true).bind fun p =>
      if p.2 ≤ 0 then none
      else if obs.dataCompletenessPct.any fun c => decide (c < settings.minDataCompletenessPct) then
        none
      else if isOutlierRatio settings (p.1 / p.2) then none
      else some (p.1 / p.2)

/-- `_weighted_ratios`. -/
def weightedRatios (settings : SolarForecastSettings) (observations : List SolarForecastObservation)
    (now : Instant) : List (ℚ × ℚ) :=
  observations.filterMap fun obs => (usableRatio settings obs).map fun ratio =>
    (ratio, recencyWeight ((utcDate now).dayNumber - obs.forecastDate.dayNumber) (utcDate now).month
      obs.forecastDate.month)

/-- `_median`. -/
def median (values : List ℚ) : Option ℚ :=
  let sorted := values.insertionSort (· ≤ ·)
  let mid := sorted.length / 2
  if values = [] then none
  else if sorted.length % 2 = 1 then some (sorted.getD mid 0)
  else some ((sorted.getD (mid - 1) 0 + sorted.getD mid 0) / 2)

def clampCorrectionFactor (settings : SolarForecastSettings) (value : ℚ) : ℚ :=
  max settings.correctionFactorMin (min settings.correctionFactorMax value)

/-- The median of the ratios that the factor is computed from. -/
def medianRatio (settings : SolarForecastSettings) (observations : List SolarForecastObservation)
    (now : Instant) : Option ℚ :=
  median ((weightedRatios settings observations now).map Prod.fst)

/-- `compute_correction_factor`. -/
def computeCorrectionFactor (settings : SolarForecastSettings)
    (observations : List SolarForecastObservation) (previousFactor : ℚ) (now : Instant) : ℚ :=
  match medianRatio settings observations now with
  | none => previousFactor
  | some m => clampCorrectionFactor settings
      (previousFactor + settings.correctionEmaAlpha * (m - previousFactor))

/-! ### The profile -/

/-- `compute_confidence_score`. -/
def computeConfidenceScore (settings : SolarForecastSettings) (profile : SolarForecastModelProfile) : Option ℚ :=
  if profile.historicalSamples = 0 then none
  else
    let sampleScore := min 100 ((profile.historicalSamples : ℚ) / settings.minSamplesMature * 100)
    let mapeScore := profile.mape30d.elim 50 fun mape => max 0 (100 - mape * 2)
    let maeScore := profile.mae30d.elim 50 fun mae => max 0 (100 - mae * 10)
    let biasScore := profile.bias30d.elim 50 fun bias => max 0 (100 - |bias| * 2)
    let stability := if profile.correctionFactor ≠ 1 then
      max 50 (100 - |profile.correctionFactor - 1| * 100) else 100
    let score := sampleScore * (35 / 100) + mapeScore * (25 / 100) + maeScore * (15 / 100) +
      biasScore * (15 / 100) + stability * (10 / 100)
    some (roundDigits 1 (min 100 (max 0 score)))

section

variable (sqrt : ℚ → ℚ) (settings : SolarForecastSettings)

def computeRmse (observations : List SolarForecastObservation) : Option ℚ :=
  (mean ((comparisons false observations).map fun p => (p.1 - p.2) ^ 2)).map sqrt

/-- `compute_window_metrics`. -/
def computeWindowMetrics (observations : List SolarForecastObservation) : Except ZeroDivisionError WindowMetrics :=
  let eligible := observations.filter usable
  (computeMape settings eligible).map fun mape =>
    { mae := computeMae false eligible
      mape := mape.1
      bias := computeBias eligible
      wape := computeWape eligible
      rmse := computeRmse sqrt eligible
      r2 := computeR2 eligible
      validMapeDays := mape.2
      sampleCount := eligible.length }

/-- The observations since so many days before the day of `now`. -/
def window (training : List SolarForecastObservation) (now : Instant) (days : ℕ) : List SolarForecastObservation :=
  training.filter fun obs => decide ((utcDate now).dayNumber - days ≤ obs.forecastDate.dayNumber)

/-- The profile, from the errors in the three windows. -/
def profileOf (siteId : ℕ) (training : List SolarForecastObservation)
    (prev : SolarForecastModelProfile) (now : Instant) (m7 m30 m90 : WindowMetrics) : SolarForecastModelProfile :=
  let bench := computeBenchmark (window training now 30)
  let state := resolveModelState settings training.length
  let publishable : Bool := decide (state ≠ .noData ∧ state ≠ .learning ∧
    settings.minSamplesPreliminary ≤ training.length)
  let gated (value : Option ℚ) (count : ℕ) : Option ℚ :=
    if !publishable || decide (count < 1) then none else value
  let profile : SolarForecastModelProfile :=
    { siteId := siteId
      historicalSamples := training.length
      modelState := state
      mape7d := gated m7.mape m7.validMapeDays
      mape30d := gated m30.mape m30.validMapeDays
      mape90d := gated m90.mape m90.validMapeDays
      mape7dValidDays := m7.validMapeDays
      mape30dValidDays := m30.validMapeDays
      mape90dValidDays := m90.validMapeDays
      mae7d := gated m7.mae m7.sampleCount
      mae30d := gated m30.mae m30.sampleCount
      mae90d := gated m90.mae m90.sampleCount
      bias7d := gated m7.bias m7.sampleCount
      bias30d := gated m30.bias m30.sampleCount
      bias90d := gated m90.bias m90.sampleCount
      wape7d := gated m7.wape m7.sampleCount
      wape30d := gated m30.wape m30.sampleCount
      wape90d := gated m90.wape m90.sampleCount
      rmse7d := gated m7.rmse m7.sampleCount
      rmse30d := gated m30.rmse m30.sampleCount
      rmse90d := gated m90.rmse m90.sampleCount
      r27d := gated m7.r2 m7.sampleCount
      r230d := gated m30.r2 m30.sampleCount
      r290d := gated m90.r2 m90.sampleCount
      rawMae30d := gated bench.rawMae m30.sampleCount
      correctedMae30d := gated bench.correctedMae m30.sampleCount
      improvementPct30d := gated bench.improvementPct m30.sampleCount
      correctionFactor := computeCorrectionFactor settings training prev.correctionFactor now
      seasonalFactors := prev.seasonalFactors
      lastTrainingAt := if training.length > 0 then some now else prev.lastTrainingAt
      lastEvaluationAt := some now
      createdAt := prev.createdAt.or (some now)
      updatedAt := some now }
  { profile with
    confidenceScore := if publishable then computeConfidenceScore settings profile else none }

/-- `build_model_profile`; `sqrt` is `math.sqrt`. -/
def buildModelProfile (siteId : ℕ) (observations : List SolarForecastObservation)
    (previous : Option SolarForecastModelProfile) (now : Instant) :
    Except ZeroDivisionError SolarForecastModelProfile := do
  let m7 ← computeWindowMetrics sqrt settings (window (observations.filter usable) now 7)
  let m30 ← computeWindowMetrics sqrt settings (window (observations.filter usable) now 30)
  let m90 ← computeWindowMetrics sqrt settings (window (observations.filter usable) now 90)
  return profileOf settings siteId (observations.filter usable)
    (previous.getD { siteId := siteId }) now m7 m30 m90

end

/-! ### Clamped exponential averages -/

/-- A step of an exponential average with bounds. -/
def averaged (lo hi alpha target value : ℚ) : ℚ :=
  max lo (min hi (value + alpha * (target - value)))

section

variable {lo hi alpha value : ℚ} (target : ℚ)

theorem clamp_of_mem (h : lo ≤ value ∧ value ≤ hi) : max lo (min hi value) = value := by
  rw [min_eq_right h.2, max_eq_right h.1]

theorem averaged_mem (h : lo ≤ hi) : lo ≤ averaged lo hi alpha target value ∧ averaged lo hi alpha target value ≤ hi :=
  ⟨le_max_left _ _, max_le h (min_le_left _ _)⟩

/-- **The average lies between the value and the clamped target.** -/
theorem averaged_between (hvalue : lo ≤ value ∧ value ≤ hi) (hpos : 0 < alpha) (hle : alpha ≤ 1) :
    min value (max lo (min hi target)) ≤ averaged lo hi alpha target value ∧
      averaged lo hi alpha target value ≤ max value (max lo (min hi target)) := by
  have hmono : ∀ {x y : ℚ}, x ≤ y → max lo (min hi x) ≤ max lo (min hi y) := fun h =>
    max_le_max le_rfl (min_le_min le_rfl h)
  have hclamped := clamp_of_mem hvalue
  rcases le_total value target with h | h
  · have hup : value ≤ value + alpha * (target - value) := by nlinarith
    have hcap : value + alpha * (target - value) ≤ target := by nlinarith
    refine ⟨(min_le_left _ _).trans ?_, le_trans (hmono hcap) (le_max_right _ _)⟩
    calc value = max lo (min hi value) := hclamped.symm
      _ ≤ averaged lo hi alpha target value := hmono hup
  · have hdown : value + alpha * (target - value) ≤ value := by nlinarith
    have hcap : target ≤ value + alpha * (target - value) := by nlinarith
    refine ⟨le_trans (min_le_right _ _) (hmono hcap), le_trans ?_ (le_max_left _ _)⟩
    calc averaged lo hi alpha target value ≤ max lo (min hi value) := hmono hdown
      _ = value := hclamped

/-- **The average stops at the clamped target only.** -/
theorem averaged_eq_self_iff (hvalue : lo ≤ value ∧ value ≤ hi) (hpos : 0 < alpha) :
    averaged lo hi alpha target value = value ↔ value = max lo (min hi target) := by
  unfold averaged
  rcases lt_trichotomy value target with h | h | h
  · have hup : value < value + alpha * (target - value) := by nlinarith
    constructor
    · intro heq
      have htop : value = hi := by
        by_contra hne
        have hlt : value < min hi (value + alpha * (target - value)) := lt_min (lt_of_le_of_ne hvalue.2 hne) hup
        exact absurd heq (ne_of_gt (lt_max_of_lt_right hlt))
      rw [min_eq_left (by linarith), htop, max_eq_right (by linarith)]
    · intro heq
      have htop : hi ≤ target := by
        by_contra hlt
        rw [min_eq_right (by linarith), max_eq_right (by linarith)] at heq
        exact absurd heq (ne_of_lt h)
      rw [min_eq_left htop, max_eq_right (hvalue.1.trans hvalue.2)] at heq
      rw [heq, min_eq_left (by nlinarith), max_eq_right (hvalue.1.trans hvalue.2)]
  · rw [← h, sub_self, mul_zero, add_zero]
    exact eq_comm
  · have hdown : value + alpha * (target - value) < value := by nlinarith
    constructor
    · intro heq
      have hbottom : value = lo := by
        by_contra hne
        have hlt : max lo (min hi (value + alpha * (target - value))) < value :=
          max_lt (lt_of_le_of_ne hvalue.1 (Ne.symm hne)) (min_lt_of_right_lt hdown)
        exact absurd heq (ne_of_lt hlt)
      rw [hbottom, max_eq_left ((min_le_right _ _).trans (by linarith))]
    · intro heq
      have hbottom : target ≤ lo := by
        by_contra hlt
        rw [min_eq_right (by linarith), max_eq_right (by linarith)] at heq
        exact absurd heq (ne_of_gt h)
      rw [max_eq_left ((min_le_right _ _).trans hbottom)] at heq
      rw [heq, max_eq_left ((min_le_right _ _).trans (by nlinarith))]

/-- The clamped target is reached in one step by a full step, from itself, or over a bound. -/
theorem averaged_eq_target_iff (hvalue : lo ≤ value ∧ value ≤ hi) (hpos : 0 < alpha) (hle : alpha ≤ 1) :
    averaged lo hi alpha target value = max lo (min hi target) ↔
      alpha = 1 ∨ value = target ∨ (hi ≤ target ∧ hi ≤ value + alpha * (target - value)) ∨
        (target ≤ lo ∧ value + alpha * (target - value) ≤ lo) := by
  have hbounds := hvalue.1.trans hvalue.2
  unfold averaged
  constructor
  · intro heq
    rcases lt_or_ge hi target with habove | hbelow
    · rw [min_eq_left (a := hi) (b := target) habove.le, max_eq_right hbounds] at heq
      have hreached : hi ≤ value + alpha * (target - value) := by
        by_contra hlt
        have hboth : max lo (min hi (value + alpha * (target - value))) < hi := by
          have hlo : lo < hi := by nlinarith
          exact max_lt hlo (min_lt_of_right_lt (not_le.mp hlt))
        exact absurd heq (ne_of_lt hboth)
      exact Or.inr (Or.inr (Or.inl ⟨habove.le, hreached⟩))
    · rcases lt_or_ge target lo with hunder | hover
      · rw [max_eq_left (a := lo) (b := min hi target) ((min_le_right _ _).trans hunder.le)] at heq
        have hreached : value + alpha * (target - value) ≤ lo := by
          by_contra hlt
          have hlo : lo < hi := by nlinarith
          have hboth : lo < max lo (min hi (value + alpha * (target - value))) :=
            lt_max_of_lt_right (lt_min hlo (not_le.mp hlt))
          exact absurd heq (ne_of_gt hboth)
        exact Or.inr (Or.inr (Or.inr ⟨hunder.le, hreached⟩))
      · have hinside : lo ≤ value + alpha * (target - value) ∧
            value + alpha * (target - value) ≤ hi := by
          constructor <;> nlinarith [hvalue.1, hvalue.2]
        rw [clamp_of_mem hinside, clamp_of_mem ⟨hover, hbelow⟩] at heq
        have hproduct : (1 - alpha) * (value - target) = 0 := by linarith
        rcases mul_eq_zero.mp hproduct with h | h
        · exact Or.inl (by linarith)
        · exact Or.inr (Or.inl (by linarith))
  · rintro (h | h | ⟨h, hreached⟩ | ⟨h, hreached⟩)
    · rw [h, one_mul, add_sub_cancel]
    · rw [h, sub_self, mul_zero, add_zero]
    · rw [min_eq_left h, min_eq_left hreached]
    · rw [max_eq_left ((min_le_right _ _).trans h), max_eq_left ((min_le_right _ _).trans hreached)]

/-- The distance to the clamped target shrinks by the part that is averaged away. -/
theorem abs_averaged_sub_le (hvalue : lo ≤ value ∧ value ≤ hi) (hpos : 0 < alpha)
    (hle : alpha ≤ 1) :
    |averaged lo hi alpha target value - max lo (min hi target)| ≤
      (1 - alpha) * |value - max lo (min hi target)| := by
  have hbounds := hvalue.1.trans hvalue.2
  set clamped := max lo (min hi target) with hclamped
  have hcases : (hi < target ∧ clamped = hi) ∨ (target < lo ∧ clamped = lo) ∨ clamped = target := by
    rcases lt_or_ge hi target with habove | hbelow
    · exact Or.inl ⟨habove, by rw [hclamped, min_eq_left habove.le, max_eq_right hbounds]⟩
    · rcases lt_or_ge target lo with hunder | hover
      · exact Or.inr (Or.inl ⟨hunder, by rw [hclamped, max_eq_left ((min_le_right _ _).trans hunder.le)]⟩)
      · exact Or.inr (Or.inr (by rw [hclamped, clamp_of_mem ⟨hover, hbelow⟩]))
  have hbetween := averaged_between target hvalue hpos hle
  have hmem := @averaged_mem lo hi alpha value target hbounds
  rw [← hclamped] at hbetween
  rcases hcases with ⟨habove, heq⟩ | ⟨hunder, heq⟩ | heq
  · have hstep : hi - (1 - alpha) * (hi - value) ≤ averaged lo hi alpha target value := by
      refine le_max_of_le_right (le_min ?_ ?_)
      · nlinarith [hvalue.2]
      · nlinarith
    rw [heq, abs_of_nonpos (by linarith [hmem.2]), abs_of_nonpos (by linarith [hvalue.2])]
    linarith
  · have hstep : averaged lo hi alpha target value ≤ lo + (1 - alpha) * (value - lo) := by
      refine max_le ?_ (min_le_of_right_le ?_)
      · nlinarith [hvalue.1]
      · nlinarith
    rw [heq, abs_of_nonneg (by linarith [hmem.1]), abs_of_nonneg (by linarith [hvalue.1])]
    linarith
  · have htarget : lo ≤ target ∧ target ≤ hi := by
      rw [← heq]
      exact ⟨le_max_left _ _, max_le hbounds (min_le_left _ _)⟩
    have hinside : lo ≤ value + alpha * (target - value) ∧
        value + alpha * (target - value) ≤ hi := by
      constructor <;> nlinarith [hvalue.1, hvalue.2]
    have hvalue' : averaged lo hi alpha target value = value + alpha * (target - value) := clamp_of_mem hinside
    have hfactor : value + alpha * (target - value) - target = (1 - alpha) * (value - target) := by
      ring
    rw [hvalue', heq, hfactor, abs_mul, abs_of_nonneg (by linarith)]

end

/-! ### When a profile is built -/

/-- No day of the last ninety that the settings let into the relative error is without energy. -/
def MapeDefined (settings : SolarForecastSettings) (observations : List SolarForecastObservation)
    (now : Instant) : Prop :=
  ∀ obs ∈ window (observations.filter usable) now 90, ∀ p, obs.compared false = some p →
    settings.mapeMinActualKwh ≤ p.1 → p.1 ≠ 0

theorem mapeDefined_of_pos {settings : SolarForecastSettings} (h : 0 < settings.mapeMinActualKwh)
    (observations : List SolarForecastObservation) (now : Instant) :
    MapeDefined settings observations now := fun _ _ _ _ hmin =>
  (lt_of_lt_of_le h hmin).ne'

section

variable {sqrt : ℚ → ℚ} {settings : SolarForecastSettings} {siteId : ℕ}
  {observations : List SolarForecastObservation} {previous : Option SolarForecastModelProfile}
  {now : Instant}

theorem computeMape_ok_iff : (∃ mape, computeMape settings observations = .ok mape) ↔
    ∀ obs ∈ observations, ∀ p, obs.compared false = some p → settings.mapeMinActualKwh ≤ p.1 → p.1 ≠ 0 := by
  simp only [computeMape]
  split_ifs with h
  · refine iff_of_false (fun ⟨_, herror⟩ => nomatch herror) fun hall => ?_
    obtain ⟨p, hp, hzero⟩ := List.any_eq_true.mp h
    obtain ⟨hmem, hmin⟩ := List.mem_filter.mp hp
    obtain ⟨obs, hobs, hcompared⟩ := List.mem_filterMap.mp hmem
    exact hall obs hobs p hcompared (of_decide_eq_true hmin) (of_decide_eq_true hzero)
  · refine iff_of_true ⟨_, rfl⟩ fun obs hobs p hcompared hmin hzero => h ?_
    have hmem : p ∈ comparisons false observations := List.mem_filterMap.mpr ⟨obs, hobs, hcompared⟩
    exact List.any_eq_true.mpr ⟨p, List.mem_filter.mpr ⟨hmem, decide_eq_true hmin⟩, decide_eq_true hzero⟩

theorem computeWindowMetrics_ok_iff : (∃ metrics, computeWindowMetrics sqrt settings observations = .ok metrics) ↔
      ∀ obs ∈ observations.filter usable, ∀ p, obs.compared false = some p →
        settings.mapeMinActualKwh ≤ p.1 → p.1 ≠ 0 := by
  rw [← computeMape_ok_iff]
  simp only [computeWindowMetrics]
  cases computeMape settings (observations.filter usable) with
  | error e => exact iff_of_false (fun ⟨_, h⟩ => nomatch h) fun ⟨_, h⟩ => nomatch h
  | ok mape => exact iff_of_true ⟨_, rfl⟩ ⟨mape, rfl⟩

/-- A shorter window is part of a longer one. -/
theorem mem_window_of_le {obs : SolarForecastObservation} {days days' : ℕ} (h : days ≤ days')
    (hobs : obs ∈ window observations now days) : obs ∈ window observations now days' := by
  obtain ⟨hmem, hday⟩ := List.mem_filter.mp hobs
  refine List.mem_filter.mpr ⟨hmem, decide_eq_true ?_⟩
  have hday := of_decide_eq_true hday
  omega

theorem window_ok (sqrt : ℚ → ℚ) (h : MapeDefined settings observations now) {days : ℕ} (hdays : days ≤ 90) :
    ∃ metrics, computeWindowMetrics sqrt settings (window (observations.filter usable) now days) = .ok metrics :=
  computeWindowMetrics_ok_iff.mpr fun obs hobs =>
    h obs (mem_window_of_le hdays (List.mem_of_mem_filter hobs))

/-- The factor that a build starts from. -/
def startFactor (siteId : ℕ) (previous : Option SolarForecastModelProfile) : ℚ :=
  (previous.getD { siteId := siteId }).correctionFactor

/-- A build that returns has the errors of all three windows. -/
theorem buildModelProfile_cases {profile : SolarForecastModelProfile}
    (h : buildModelProfile sqrt settings siteId observations previous now = .ok profile) :
    ∃ m7 m30 m90,
      computeWindowMetrics sqrt settings (window (observations.filter usable) now 90) = .ok m90 ∧
        profile = profileOf settings siteId (observations.filter usable)
          (previous.getD { siteId := siteId }) now m7 m30 m90 := by
  unfold buildModelProfile at h
  cases h7 : computeWindowMetrics sqrt settings (window (observations.filter usable) now 7) with
  | error e =>
    rw [h7] at h
    cases h
  | ok m7 =>
    rw [h7] at h
    cases h30 : computeWindowMetrics sqrt settings (window (observations.filter usable) now 30) with
    | error e =>
      rw [h30] at h
      cases h
    | ok m30 =>
      rw [h30] at h
      cases h90 : computeWindowMetrics sqrt settings
          (window (observations.filter usable) now 90) with
      | error e =>
        rw [h90] at h
        cases h
      | ok m90 =>
        rw [h90] at h
        exact ⟨m7, m30, m90, rfl, (Except.ok.inj h).symm⟩

/-- **A profile is built exactly if no day without energy is divided by.** -/
theorem buildModelProfile_ok_iff (sqrt : ℚ → ℚ) (siteId : ℕ) (previous : Option SolarForecastModelProfile) :
    (∃ profile, buildModelProfile sqrt settings siteId observations previous now = .ok profile) ↔
      MapeDefined settings observations now := by
  constructor
  · rintro ⟨profile, h⟩ obs hobs
    obtain ⟨m7, m30, m90, h90, -⟩ := buildModelProfile_cases h
    have husable : obs.usable = true := List.of_mem_filter (List.mem_of_mem_filter hobs)
    exact computeWindowMetrics_ok_iff.mp ⟨m90, h90⟩ obs (List.mem_filter.mpr ⟨hobs, husable⟩)
  · intro h
    obtain ⟨m7, h7⟩ := window_ok sqrt h (show 7 ≤ 90 by decide)
    obtain ⟨m30, h30⟩ := window_ok sqrt h (show 30 ≤ 90 by decide)
    obtain ⟨m90, h90⟩ := window_ok sqrt h le_rfl
    unfold buildModelProfile
    rw [h7, h30, h90]
    exact ⟨_, rfl⟩

/-! ### The factor of a profile -/

/-- The factor lies within the configured bounds. -/
def SolarForecastSettings.InBounds (settings : SolarForecastSettings) (factor : ℚ) : Prop :=
  settings.correctionFactorMin ≤ factor ∧ factor ≤ settings.correctionFactorMax

theorem usable_of_usableRatio {obs : SolarForecastObservation} {ratio : ℚ}
    (h : usableRatio settings obs = some ratio) : obs.usable = true := by
  unfold usableRatio at h
  by_cases heligible : obs.trainingEligible = true
  · rw [if_neg (not_not.mpr heligible)] at h
    obtain ⟨p, hp, -⟩ := Option.bind_eq_some_iff.mp h
    obtain ⟨actual, hactual, -⟩ := Option.bind_eq_some_iff.mp hp
    rw [usable, heligible, hactual]
    rfl
  · rw [if_pos heligible] at h
    cases h

/-- The observations that are not for training have no ratio that counts. -/
theorem medianRatio_filter_usable :
    medianRatio settings (observations.filter usable) now = medianRatio settings observations now := by
  have hratios : weightedRatios settings (observations.filter usable) now =
      weightedRatios settings observations now := by
    unfold weightedRatios
    rw [List.filterMap_filter]
    refine List.filterMap_congr fun obs _ => ?_
    split_ifs with husable
    · rfl
    · cases hratio : usableRatio settings obs with
      | none => rfl
      | some ratio => exact absurd (usable_of_usableRatio hratio) husable
  rw [medianRatio, hratios]
  rfl

/-- The factor of a profile is the start, or its average with the median. -/
theorem correctionFactor_of_ok {profile : SolarForecastModelProfile}
    (h : buildModelProfile sqrt settings siteId observations previous now = .ok profile) :
    profile.correctionFactor = (medianRatio settings observations now).elim (startFactor siteId previous) fun m =>
        averaged settings.correctionFactorMin settings.correctionFactorMax
          settings.correctionEmaAlpha m (startFactor siteId previous) := by
  obtain ⟨m7, m30, m90, -, rfl⟩ := buildModelProfile_cases h
  show computeCorrectionFactor settings (observations.filter usable) (startFactor siteId previous) now = _
  rw [computeCorrectionFactor, medianRatio_filter_usable]
  cases medianRatio settings observations now with
  | none => rfl
  | some m => rfl

theorem inBounds_of_ok (hstart : settings.InBounds (startFactor siteId previous)) {profile : SolarForecastModelProfile}
    (h : buildModelProfile sqrt settings siteId observations previous now = .ok profile) :
    settings.InBounds profile.correctionFactor := by
  rw [correctionFactor_of_ok h]
  cases medianRatio settings observations now with
  | none => exact hstart
  | some m => exact averaged_mem m (hstart.1.trans hstart.2)

end

/-! ### Building again -/

section

variable (sqrt : ℚ → ℚ) (settings : SolarForecastSettings) (siteId : ℕ)
  (observations : List SolarForecastObservation) (now : Instant)

/-- The profile that stands after so many builds, each from the last one's result. -/
def rebuilt (previous : Option SolarForecastModelProfile) :
    ℕ → Except ZeroDivisionError (Option SolarForecastModelProfile)
  | 0 => .ok previous
  | n + 1 => do
    let last ← rebuilt previous n
    some <$> buildModelProfile sqrt settings siteId observations last now

variable {sqrt settings siteId observations now} {previous : Option SolarForecastModelProfile}

/-- **Repeated builds.** They stay in the bounds, and each brings the factor nearer to the clamped median. -/
theorem rebuilt_spec (hstart : settings.InBounds (startFactor siteId previous))
    (hmape : MapeDefined settings observations now) (n : ℕ) :
    ∃ last, rebuilt sqrt settings siteId observations now previous n = .ok last ∧
      settings.InBounds (startFactor siteId last) ∧
      ∀ m, medianRatio settings observations now = some m →
        |startFactor siteId last - clampCorrectionFactor settings m| ≤
          (1 - settings.correctionEmaAlpha) ^ n *
            |startFactor siteId previous - clampCorrectionFactor settings m| := by
  induction n with
  | zero => exact ⟨previous, rfl, hstart, fun m _ => by rw [pow_zero, one_mul]⟩
  | succ n ih =>
    obtain ⟨last, hlast, hbounds, hnear⟩ := ih
    obtain ⟨profile, hprofile⟩ := (buildModelProfile_ok_iff sqrt siteId last).mpr hmape
    refine ⟨some profile, ?_, inBounds_of_ok hbounds hprofile, fun m hm => ?_⟩
    · show (rebuilt sqrt settings siteId observations now previous n >>= fun last =>
        some <$> buildModelProfile sqrt settings siteId observations last now) = _
      rw [hlast]
      exact congrArg (some <$> ·) hprofile
    · have hstep : startFactor siteId (some profile) = averaged settings.correctionFactorMin
          settings.correctionFactorMax settings.correctionEmaAlpha m (startFactor siteId last) := by
        rw [startFactor, Option.getD_some, correctionFactor_of_ok hprofile, hm]
        rfl
      have hshrinks := abs_averaged_sub_le m hbounds settings.alpha_pos settings.alpha_le
      have hleft : 0 ≤ 1 - settings.correctionEmaAlpha := by linarith [settings.alpha_le]
      rw [hstep, pow_succ']
      calc |averaged settings.correctionFactorMin settings.correctionFactorMax
            settings.correctionEmaAlpha m (startFactor siteId last) -
              clampCorrectionFactor settings m|
          ≤ (1 - settings.correctionEmaAlpha) *
              |startFactor siteId last - clampCorrectionFactor settings m| := hshrinks
        _ ≤ (1 - settings.correctionEmaAlpha) * ((1 - settings.correctionEmaAlpha) ^ n *
              |startFactor siteId previous - clampCorrectionFactor settings m|) :=
            mul_le_mul_of_nonneg_left (hnear m hm) hleft
        _ = _ := (mul_assoc _ _ _).symm

/-- The factor is left alone by a second build: nothing to learn from, a full step, the median itself, or a
median beyond a bound that the average reaches. -/
def Settled (settings : SolarForecastSettings) (observations : List SolarForecastObservation)
    (now : Instant) (factor : ℚ) : Prop :=
  ∀ m, medianRatio settings observations now = some m →
    settings.correctionEmaAlpha = 1 ∨ factor = m ∨
      (settings.correctionFactorMax ≤ m ∧
        settings.correctionFactorMax ≤ factor + settings.correctionEmaAlpha * (m - factor)) ∨
      (m ≤ settings.correctionFactorMin ∧
        factor + settings.correctionEmaAlpha * (m - factor) ≤ settings.correctionFactorMin)

/-- **Recalibration.** The factor stays in the bounds and between the previous one and the clamped median; a
second build leaves it alone exactly under `Settled`; any number of builds approaches the clamped median. -/
theorem recalibration (sqrt : ℚ → ℚ) (siteId : ℕ) {previous : Option SolarForecastModelProfile}
    (hstart : settings.InBounds (startFactor siteId previous))
    (hmape : MapeDefined settings observations now) :
    ∃ first second,
      buildModelProfile sqrt settings siteId observations previous now = .ok first ∧
      buildModelProfile sqrt settings siteId observations (some first) now = .ok second ∧
      settings.InBounds first.correctionFactor ∧
      (∀ m, medianRatio settings observations now = some m →
        min (startFactor siteId previous) (clampCorrectionFactor settings m) ≤
            first.correctionFactor ∧
          first.correctionFactor ≤
            max (startFactor siteId previous) (clampCorrectionFactor settings m)) ∧
      (second.correctionFactor = first.correctionFactor ↔
        Settled settings observations now (startFactor siteId previous)) ∧
      ∀ n, ∃ last, rebuilt sqrt settings siteId observations now previous n = .ok last ∧
        settings.InBounds (startFactor siteId last) ∧
        ∀ m, medianRatio settings observations now = some m →
          |startFactor siteId last - clampCorrectionFactor settings m| ≤
            (1 - settings.correctionEmaAlpha) ^ n *
              |startFactor siteId previous - clampCorrectionFactor settings m| := by
  obtain ⟨first, hfirst⟩ := (buildModelProfile_ok_iff sqrt siteId previous).mpr hmape
  obtain ⟨second, hsecond⟩ := (buildModelProfile_ok_iff sqrt siteId (some first)).mpr hmape
  have hbounds := inBounds_of_ok hstart hfirst
  have hvalue := correctionFactor_of_ok hfirst
  have hagain := correctionFactor_of_ok hsecond
  refine ⟨first, second, hfirst, hsecond, hbounds, fun m hm => ?_, ?_, rebuilt_spec hstart hmape⟩
  · rw [hvalue, hm]
    exact averaged_between m hstart settings.alpha_pos settings.alpha_le
  · have hnext : startFactor siteId (some first) = first.correctionFactor := rfl
    rw [hagain, hnext]
    unfold Settled
    cases hm : medianRatio settings observations now with
    | none => exact iff_of_true rfl fun m hm' => nomatch hm'
    | some m =>
      rw [hm] at hvalue
      have hstop := averaged_eq_self_iff m hbounds settings.alpha_pos
      have hreach := averaged_eq_target_iff m hstart settings.alpha_pos settings.alpha_le
      constructor
      · rintro heq m' ⟨⟩
        have htarget := hstop.mp heq
        rw [hvalue] at htarget
        exact hreach.mp htarget
      · intro hsettled
        refine hstop.mpr ?_
        rw [hvalue]
        exact hreach.mpr (hsettled m rfl)

end

namespace CalibrationDemo

/-- A day that brought nine tenths of its forecast. -/
def hazyDay : SolarForecastObservation where
  forecastDate := { year := 2026, month := 6, day := 1, day_le := Nat.le_add_left 1 30 }
  forecastKwhRaw := some 10
  forecastKwhCorrected := some 10
  actualKwh := some 9

def settings : SolarForecastSettings := {}

/-- Noon of 2 June 2026. -/
def now : Instant := 1780401600

theorem medianRatio_hazyDay : medianRatio settings [hazyDay] now = some (9 / 10) := by
  decide +kernel

theorem inBounds_start : settings.InBounds (startFactor 1 none) := by
  show (7 / 10 : ℚ) ≤ 1 ∧ (1 : ℚ) ≤ 13 / 10
  norm_num

theorem mapeDefined_hazyDay : MapeDefined settings [hazyDay] now :=
  mapeDefined_of_pos (by show (0 : ℚ) < 1; norm_num) _ _

/-- A second build of the same day moves the factor again. -/
theorem averaged_twice : settings.InBounds (startFactor 1 none) ∧
      ∃ first second, buildModelProfile id settings 1 [hazyDay] none now = .ok first ∧
        buildModelProfile id settings 1 [hazyDay] (some first) now = .ok second ∧
        first.correctionFactor = 985 / 1000 ∧ second.correctionFactor = 97225 / 100000 := by
  obtain ⟨first, hfirst⟩ := (buildModelProfile_ok_iff id 1 none).mpr mapeDefined_hazyDay
  obtain ⟨second, hsecond⟩ := (buildModelProfile_ok_iff id 1 (some first)).mpr mapeDefined_hazyDay
  have hvalue : first.correctionFactor = 985 / 1000 := by
    rw [correctionFactor_of_ok hfirst, medianRatio_hazyDay]
    show max (7 / 10 : ℚ) (min (13 / 10) (1 + 15 / 100 * (9 / 10 - 1))) = 985 / 1000
    norm_num
  refine ⟨inBounds_start, first, second, hfirst, hsecond, hvalue, ?_⟩
  have hnext : startFactor 1 (some first) = 985 / 1000 := hvalue
  rw [correctionFactor_of_ok hsecond, medianRatio_hazyDay, hnext]
  show max (7 / 10 : ℚ) (min (13 / 10) (985 / 1000 + 15 / 100 * (9 / 10 - 985 / 1000))) = _
  norm_num

theorem recalibration_hazyDay : ∃ first second, buildModelProfile id settings 1 [hazyDay] none now = .ok first ∧
      buildModelProfile id settings 1 [hazyDay] (some first) now = .ok second ∧
      settings.InBounds first.correctionFactor ∧ (second.correctionFactor = first.correctionFactor ↔
        Settled settings [hazyDay] now (startFactor 1 none)) := by
  obtain ⟨first, second, hfirst, hsecond, hbounds, -, hagain, -⟩ :=
    recalibration id 1 inBounds_start mapeDefined_hazyDay
  exact ⟨first, second, hfirst, hsecond, hbounds, hagain⟩

end CalibrationDemo

end EnergyCore.SolarForecast
