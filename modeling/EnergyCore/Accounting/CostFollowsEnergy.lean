import EnergyCore.Accounting.SessionTotals

/-!
# The cost of a session and its energy

A session that was charged from the grid at one price should cost that price for each kilowatt hour it
reports. `session_totals_from_intervals` takes the energy from the meter, and the cost from the intervals.

* `sumAttribution_gridDirect` — grid-direct intervals sum to a grid-direct attribution;
* `total_scaled` — a scaled session reports the meter total, up to one rounding;
* `cost_follows_energy_iff` — the cost is the price of the reported energy exactly if reconciliation leaves the
  energy of the intervals in place.
-/

namespace EnergyCore.Accounting

open HalfEvenRounding

/-- Every interval was charged directly from the grid, at the price `p`. -/
def AllGridDirect (p : ℚ) (intervals : List ChargingInterval) : Prop :=
  ∀ i ∈ intervals, i.attribution = { gridDirectKwh := i.chargedEnergyKwh } ∧
    i.actualCostSek = p * i.chargedEnergyKwh

/-- The energy the intervals add up to. -/
def intervalsKwh (intervals : List ChargingInterval) : ℚ :=
  (intervals.map (·.chargedEnergyKwh)).sum

/-- The cost of a session is the price of its energy, up to the rounding of that energy. -/
def CostFollowsEnergy (p : ℚ) (totals : SessionTotals) : Prop :=
  |totals.actualCostSek - p * totals.totalEnergyKwh| ≤ |p| * roundingUnitKwh

/-! ### The sums of the intervals -/

theorem AllGridDirect.of_cons {p : ℚ} {i : ChargingInterval} {intervals : List ChargingInterval}
    (h : AllGridDirect p (i :: intervals)) : AllGridDirect p intervals :=
  fun j hj => h j (List.mem_cons_of_mem i hj)

theorem sumAttribution_cons (i : ChargingInterval) (intervals : List ChargingInterval) :
    sumAttribution (i :: intervals)
      = { solarDirectKwh := i.attribution.solarDirectKwh + (sumAttribution intervals).solarDirectKwh
          solarBatteryKwh :=
            i.attribution.solarBatteryKwh + (sumAttribution intervals).solarBatteryKwh
          gridBatteryKwh := i.attribution.gridBatteryKwh + (sumAttribution intervals).gridBatteryKwh
          gridDirectKwh :=
            i.attribution.gridDirectKwh + (sumAttribution intervals).gridDirectKwh } := by
  simp only [sumAttribution, List.map_cons, List.sum_cons]

/-- Grid-direct intervals sum to a grid-direct attribution. -/
theorem sumAttribution_gridDirect {p : ℚ} {intervals : List ChargingInterval}
    (h : AllGridDirect p intervals) :
    sumAttribution intervals = { gridDirectKwh := intervalsKwh intervals } := by
  induction intervals with
  | nil => rfl
  | cons i intervals ih =>
    have hattribution : i.attribution = { gridDirectKwh := i.chargedEnergyKwh } :=
      (h i List.mem_cons_self).1
    rw [sumAttribution_cons, ih h.of_cons, hattribution]
    simp only [intervalsKwh, List.map_cons, List.sum_cons, add_zero]

theorem sumCost_gridDirect {p : ℚ} {intervals : List ChargingInterval} (h : AllGridDirect p intervals) :
    (intervals.map (·.actualCostSek)).sum = p * intervalsKwh intervals := by
  induction intervals with
  | nil => simp [intervalsKwh]
  | cons i intervals ih =>
    have hcost : i.actualCostSek = p * i.chargedEnergyKwh := (h i List.mem_cons_self).2
    rw [List.map_cons, List.sum_cons, ih h.of_cons, hcost]
    simp only [intervalsKwh, List.map_cons, List.sum_cons]
    ring

/-! ### The energy of each outcome -/

theorem totalKwh_gridDirect (kwh : ℚ) : ({ gridDirectKwh := kwh } : EnergyAttribution).totalKwh = kwh := by
  simp [EnergyAttribution.totalKwh]

/-- The total energy of a session whose intervals add up to the grid energy `kwh`. -/
def reportedKwh (kwh measured : ℚ) : ℚ :=
  sessionTotalKwh (reconcile { gridDirectKwh := kwh } (some measured) kwh) measured

/-- The register was reset: the energy of the intervals stands. -/
theorem reportedKwh_reset {kwh measured : ℚ} (hmeasured : measured ≤ 0)
    (hkwh : kwh > attributionToleranceKwh) : reportedKwh kwh measured = kwh := by
  have hpos : 0 < kwh := lt_trans (by norm_num [attributionToleranceKwh]) hkwh
  simp only [reportedKwh, reconcile]
  rw [if_pos ⟨hmeasured, hkwh⟩]
  simp only [sessionTotalKwh]
  rw [totalKwh_gridDirect, if_pos hpos.ne']

/-- Within the tolerance the energy of the intervals stands, unless there is none. -/
theorem reportedKwh_within {kwh measured : ℚ} (hreset : ¬ (measured ≤ 0 ∧ kwh > attributionToleranceKwh))
    (hdelta : |measured - kwh| ≤ attributionToleranceKwh) :
    reportedKwh kwh measured = if kwh ≠ 0 then kwh else measured := by
  simp only [reportedKwh, reconcile]
  rw [if_neg hreset, if_pos hdelta]
  simp only [sessionTotalKwh]
  rw [totalKwh_gridDirect]

theorem scaleAttribution_gridDirect {kwh : ℚ} (hpos : 0 < kwh) (target : ℚ) :
    scaleAttribution { gridDirectKwh := kwh } target = { gridDirectKwh := roundDigits 4 target } := by
  have hfactor : kwh * (target / kwh) = target := mul_div_cancel₀ target hpos.ne'
  simp only [scaleAttribution]
  rw [totalKwh_gridDirect, if_neg (not_le.mpr hpos), hfactor]
  simp

/-- **A scaled session** reports the meter total, up to one rounding. -/
theorem total_scaled {kwh measured : ℚ} (hreset : ¬ (measured ≤ 0 ∧ kwh > attributionToleranceKwh))
    (hdelta : ¬ |measured - kwh| ≤ attributionToleranceKwh) :
    |reportedKwh kwh measured - measured| ≤ roundingUnitKwh := by
  have hunit : (0 : ℚ) ≤ roundingUnitKwh := by norm_num [roundingUnitKwh]
  have hround : |roundDigits 4 measured - measured| ≤ roundingUnitKwh := abs_roundDigits_sub_le 4 measured
  have hself : |measured - measured| ≤ roundingUnitKwh := by
    rw [sub_self, abs_zero]
    exact hunit
  simp only [reportedKwh, reconcile]
  rw [if_neg hreset, if_neg hdelta]
  by_cases hpos : kwh > 0
  · simp only [sessionTotalKwh]
    rw [if_pos hpos, scaleAttribution_gridDirect hpos, totalKwh_gridDirect]
    split_ifs
    · exact hround
    · exact hself
  · simp only [sessionTotalKwh]
    rw [if_neg hpos, totalKwh_gridDirect]
    split_ifs
    · exact hself
    · exact hself

/-! ### The cost of each outcome -/

theorem close_iff_follows {p kwh total : ℚ} :
    |p * kwh - p * total| ≤ |p| * roundingUnitKwh ↔ p = 0 ∨ |kwh - total| ≤ roundingUnitKwh := by
  rw [← mul_sub, abs_mul]
  by_cases hp : p = 0
  · refine iff_of_true ?_ (.inl hp)
    rw [hp, abs_zero, zero_mul, zero_mul]
  · rw [mul_le_mul_iff_right₀ (abs_pos.mpr hp)]
    exact ⟨.inr, fun h => h.resolve_left hp⟩

/-- When reconciliation leaves the energy `kwh` of the intervals in place: there is no reading, the register
was reset, or the reading is within the tolerance and does not stand in for an energy of zero. -/
def EnergyStands (kwh : ℚ) : Option ℚ → Prop
  | none => True
  | some measured =>
    (measured ≤ 0 ∧ kwh > attributionToleranceKwh) ∨
      (|measured - kwh| ≤ attributionToleranceKwh ∧ (kwh ≠ 0 ∨ |measured| ≤ roundingUnitKwh))

/-- The reported energy is within one rounding of the energy of the intervals exactly if that energy stands. -/
theorem reportedKwh_close_iff (kwh : ℚ) (measured : Option ℚ) :
    |kwh - reportedKwh kwh (measured.getD kwh)| ≤ roundingUnitKwh ↔ EnergyStands kwh measured := by
  have hunit : (0 : ℚ) ≤ roundingUnitKwh := by norm_num [roundingUnitKwh]
  have hsmall : 2 * roundingUnitKwh < attributionToleranceKwh := by
    norm_num [roundingUnitKwh, attributionToleranceKwh]
  have hself : |kwh - kwh| ≤ roundingUnitKwh := by
    rw [sub_self, abs_zero]
    exact hunit
  have htolerance : (0 : ℚ) ≤ attributionToleranceKwh := by norm_num [attributionToleranceKwh]
  cases measured with
  | none =>
    refine iff_of_true ?_ trivial
    rw [Option.getD_none]
    by_cases hreset : kwh ≤ 0 ∧ kwh > attributionToleranceKwh
    · exact absurd (lt_of_lt_of_le hreset.2 hreset.1) (not_lt.mpr htolerance)
    · have hdelta : |kwh - kwh| ≤ attributionToleranceKwh := by
        rw [sub_self, abs_zero]
        exact htolerance
      rw [reportedKwh_within hreset hdelta, ite_self]
      exact hself
  | some measured =>
    rw [Option.getD_some, EnergyStands]
    by_cases hreset : measured ≤ 0 ∧ kwh > attributionToleranceKwh
    · refine iff_of_true ?_ (.inl hreset)
      rw [reportedKwh_reset hreset.1 hreset.2]
      exact hself
    · by_cases hdelta : |measured - kwh| ≤ attributionToleranceKwh
      · rw [reportedKwh_within hreset hdelta]
        by_cases hzero : kwh = 0
        · rw [if_neg (not_not.mpr hzero), hzero, zero_sub, abs_neg]
          constructor
          · intro hclose
            exact .inr ⟨by rw [← hzero]; exact hdelta, .inr hclose⟩
          · rintro (⟨-, hpos⟩ | ⟨-, hne | hclose⟩)
            · exact absurd hpos (not_lt.mpr htolerance)
            · exact absurd rfl hne
            · exact hclose
        · rw [if_pos hzero]
          exact iff_of_true hself (.inr ⟨hdelta, .inl hzero⟩)
      · -- the meter is more than the tolerance away, and the reported energy is next to the meter
        refine iff_of_false ?_ ?_
        · intro hclose
          have hscaled := abs_le.mp (total_scaled hreset hdelta)
          have hbounds := abs_le.mp hclose
          refine hdelta (abs_le.mpr ⟨?_, ?_⟩) <;> linarith
        · rintro (h | ⟨h, -⟩)
          · exact hreset h
          · exact hdelta h

/-- What the totals of a grid-direct session are made of. -/
theorem sessionTotals_gridDirect {p : ℚ} {intervals : List ChargingInterval}
    (h : AllGridDirect p intervals) (measuredKwh : Option ℚ) (meterQuality : String) :
    let totals := sessionTotalsFromIntervals intervals measuredKwh meterQuality
    totals.actualCostSek = p * intervalsKwh intervals ∧
      totals.totalEnergyKwh
        = reportedKwh (intervalsKwh intervals) (measuredKwh.getD (intervalsKwh intervals)) := by
  refine ⟨sumCost_gridDirect h, ?_⟩
  simp only [sessionTotalsFromIntervals, sumAttribution_gridDirect h]
  rfl

/-- **The cost follows the energy** exactly if electricity is free, or reconciliation leaves the energy of the
intervals in place. -/
theorem cost_follows_energy_iff {p : ℚ} {intervals : List ChargingInterval}
    (h : AllGridDirect p intervals) (measuredKwh : Option ℚ) (meterQuality : String) :
    CostFollowsEnergy p (sessionTotalsFromIntervals intervals measuredKwh meterQuality) ↔
      p = 0 ∨ EnergyStands (intervalsKwh intervals) measuredKwh := by
  obtain ⟨hcost, htotal⟩ := sessionTotals_gridDirect h measuredKwh meterQuality
  rw [CostFollowsEnergy, hcost, htotal, close_iff_follows, reportedKwh_close_iff]

/-! ### A session of 10 kWh -/

section Demo

/-- An hour of charging 10 kWh from the grid, at 2 SEK/kWh. -/
def demoGridInterval : ChargingInterval where
  sessionId := 1
  startTime := 0
  endTime := 3600
  chargedEnergyKwh := 10
  averageChargingPowerW := 10000
  pvProductionKwh := 0
  houseConsumptionKwh := 10
  gridImportKwh := 10
  gridExportKwh := 0
  batteryChargeKwh := 0
  batteryDischargeKwh := 0
  electricityPriceSekKwh := some 2
  attribution := { gridDirectKwh := 10 }
  actualCostSek := 20
  referenceCostSek := some 20
  savingsSek := some 0
  confidence := 4 / 5
  dataQuality := "CALCULATED"

theorem demo_allGridDirect : AllGridDirect 2 [demoGridInterval] := by
  intro i hi
  obtain rfl := List.mem_singleton.mp hi
  decide +kernel

/-- The meter has counted 12 kWh, and the 12 kWh are reported with the cost of 10. -/
theorem cost_of_less_energy :
    ¬ ∀ (p : ℚ) (intervals : List ChargingInterval) (measuredKwh : Option ℚ) (meterQuality : String),
      AllGridDirect p intervals →
        CostFollowsEnergy p (sessionTotalsFromIntervals intervals measuredKwh meterQuality) := by
  intro h
  have hfollows := h 2 [demoGridInterval] (some 12) "MEASURED" demo_allGridDirect
  revert hfollows
  show ¬ |_ - _| ≤ _
  decide +kernel

/-- Without a reading the session costs 20 SEK for its 10 kWh. -/
theorem demo_cost_follows : CostFollowsEnergy 2 (sessionTotalsFromIntervals [demoGridInterval] none "MEASURED") :=
  (cost_follows_energy_iff demo_allGridDirect none "MEASURED").mpr (.inr trivial)

end Demo

end EnergyCore.Accounting
