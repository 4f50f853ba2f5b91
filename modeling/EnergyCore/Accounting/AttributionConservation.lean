import EnergyCore.Accounting.ConsistentTotals
import EnergyCore.Accounting.SolarBudget

/-!
# Conservation of the attributed energy

`attribute_interval` carves the charged energy into a solar, two battery and a grid part, one after another, and rounds
them at the end.

* `batteryShare_conserves` — the battery parts and what remains of the energy;
* `exactAttribution_totalKwh` — the parts before the rounding add up to the charged energy;
* `attribution_eq_rounded` — the parts that are returned are these, rounded, and are never scaled;
* `attributeInterval_conserves` — no part is negative, and the parts add up to the charged energy within four roundings.
-/

namespace EnergyCore.Accounting

open HalfEvenRounding

/-! ### The parts before the rounding -/

namespace EnergyAttribution

/-- Each part, rounded to four digits. -/
def rounded (a : EnergyAttribution) : EnergyAttribution where
  solarDirectKwh := roundDigits 4 a.solarDirectKwh
  solarBatteryKwh := roundDigits 4 a.solarBatteryKwh
  gridBatteryKwh := roundDigits 4 a.gridBatteryKwh
  gridDirectKwh := roundDigits 4 a.gridDirectKwh

theorem Nonneg.rounded {a : EnergyAttribution} (h : a.Nonneg) : a.rounded.Nonneg := by
  obtain ⟨hsolarDirect, hsolarBattery, hgridBattery, hgridDirect⟩ := h
  exact ⟨roundDigits_nonneg 4 hsolarDirect, roundDigits_nonneg 4 hsolarBattery,
    roundDigits_nonneg 4 hgridBattery, roundDigits_nonneg 4 hgridDirect⟩

/-- Rounding moves the total by four roundings at most. -/
theorem abs_totalKwh_rounded_sub_le (a : EnergyAttribution) :
    |a.rounded.totalKwh - a.totalKwh| ≤ 4 * roundingUnitKwh := by
  have hsolarDirect := roundDigits_bounds a.solarDirectKwh
  have hsolarBattery := roundDigits_bounds a.solarBatteryKwh
  have hgridBattery := roundDigits_bounds a.gridBatteryKwh
  have hgridDirect := roundDigits_bounds a.gridDirectKwh
  simp only [totalKwh, rounded]
  rw [abs_le]
  constructor
  · linarith [hsolarDirect.1, hsolarBattery.1, hgridBattery.1, hgridDirect.1]
  · linarith [hsolarDirect.2, hsolarBattery.2, hgridBattery.2, hgridDirect.2]

end EnergyAttribution

/-- The parts that `attribute_interval` computes, before it rounds them. -/
def exactAttribution (chargedKwh : ℚ) (sample : SiteEnergySample) (batteryDischarge : Option BatteryDischargeSplit) :
    EnergyAttribution :=
  if chargedKwh ≤ 0 then {}
  else
    let solarDirect := solarDirectShare chargedKwh sample
    let battery := batteryShare (chargedKwh - solarDirect) sample batteryDischarge
    { solarDirectKwh := solarDirect
      solarBatteryKwh := battery.1
      gridBatteryKwh := battery.2.1
      gridDirectKwh := gridDirectShare battery.2.2 sample }

/-- The split of a battery discharge takes nothing back. -/
def SplitNonneg (batteryDischarge : Option BatteryDischargeSplit) : Prop :=
  ∀ d ∈ batteryDischarge, 0 ≤ d.solarKwh ∧ 0 ≤ d.gridKwh

/-! ### One part after another -/

/-- What the import does not explain is grid energy as well. -/
theorem gridDirectShare_eq {remaining : ℚ} (h : 0 ≤ remaining) (sample : SiteEnergySample) :
    gridDirectShare remaining sample = remaining := by
  apply le_antisymm
  · simp only [gridDirectShare]
    split_ifs with himport hrest hrest
    · linarith
    · exact min_le_left _ _
    · linarith
    · exact h
  · exact le_gridDirectShare remaining sample

/-- **The battery parts** are not negative, and neither is what they leave of the remaining energy. -/
theorem batteryShare_conserves {remaining : ℚ} (h : 0 ≤ remaining) (sample : SiteEnergySample)
    {batteryDischarge : Option BatteryDischargeSplit} (hsplit : SplitNonneg batteryDischarge) :
    (0 ≤ (batteryShare remaining sample batteryDischarge).1 ∧ 0 ≤ (batteryShare remaining sample batteryDischarge).2.1
      ∧ 0 ≤ (batteryShare remaining sample batteryDischarge).2.2)
    ∧ (batteryShare remaining sample batteryDischarge).1 + (batteryShare remaining sample batteryDischarge).2.1
      + (batteryShare remaining sample batteryDischarge).2.2 = remaining := by
  cases batteryDischarge with
  | none => exact ⟨⟨le_rfl, le_rfl, h⟩, by simp [batteryShare]⟩
  | some d =>
    obtain ⟨hsolar, hgrid⟩ := hsplit d rfl
    simp only [batteryShare]
    split_ifs with hused htotal
    · have hdischarge : 0 ≤ min remaining (d.solarKwh + d.gridKwh) := le_min h htotal.le
      have hleft : 0 ≤ remaining - min remaining (d.solarKwh + d.gridKwh) := sub_nonneg.mpr (min_le_left _ _)
      have hshares : d.solarKwh / (d.solarKwh + d.gridKwh) + d.gridKwh / (d.solarKwh + d.gridKwh) = 1 := by
        rw [← add_div, div_self htotal.ne']
      refine ⟨⟨mul_nonneg hdischarge (div_nonneg hsolar htotal.le),
        mul_nonneg hdischarge (div_nonneg hgrid htotal.le), hleft⟩, ?_⟩
      show min remaining (d.solarKwh + d.gridKwh) * (d.solarKwh / (d.solarKwh + d.gridKwh))
        + min remaining (d.solarKwh + d.gridKwh) * (d.gridKwh / (d.solarKwh + d.gridKwh))
        + (remaining - min remaining (d.solarKwh + d.gridKwh)) = remaining
      rw [← mul_add, hshares, mul_one]
      ring
    · have hnone : d.solarKwh + d.gridKwh = 0 := le_antisymm (not_lt.mp htotal) (add_nonneg hsolar hgrid)
      have hdischarge : min remaining (d.solarKwh + d.gridKwh) = 0 := by
        rw [hnone]
        exact min_eq_right h
      rw [hdischarge]
      exact ⟨⟨le_rfl, le_rfl, by rwa [sub_zero]⟩, by ring⟩
    · exact ⟨⟨le_rfl, le_rfl, h⟩, by ring⟩

section

variable {chargedKwh : ℚ} {batteryDischarge : Option BatteryDischargeSplit}

theorem exactAttribution_nonneg (sample : SiteEnergySample) (hsplit : SplitNonneg batteryDischarge) :
    (exactAttribution chargedKwh sample batteryDischarge).Nonneg := by
  simp only [exactAttribution]
  split_ifs with hcharged
  · exact ⟨le_rfl, le_rfl, le_rfl, le_rfl⟩
  · have hpos : 0 ≤ chargedKwh := (not_le.mp hcharged).le
    have hremaining : 0 ≤ chargedKwh - solarDirectShare chargedKwh sample :=
      sub_nonneg.mpr (solarDirectShare_le chargedKwh sample)
    obtain ⟨⟨hsolar, hgrid, hleft⟩, -⟩ := batteryShare_conserves hremaining sample hsplit
    exact ⟨solarDirectShare_nonneg hpos sample, hsolar, hgrid, hleft.trans (le_gridDirectShare _ sample)⟩

/-- **Nothing is lost** before the rounding. -/
theorem exactAttribution_totalKwh (sample : SiteEnergySample) (hcharged : 0 ≤ chargedKwh)
    (hsplit : SplitNonneg batteryDischarge) :
    (exactAttribution chargedKwh sample batteryDischarge).totalKwh = chargedKwh := by
  simp only [exactAttribution]
  split_ifs with hnone
  · have hzero : chargedKwh = 0 := le_antisymm hnone hcharged
    rw [hzero]
    simp [EnergyAttribution.totalKwh]
  · have hremaining : 0 ≤ chargedKwh - solarDirectShare chargedKwh sample :=
      sub_nonneg.mpr (solarDirectShare_le chargedKwh sample)
    obtain ⟨⟨-, -, hleft⟩, hsum⟩ := batteryShare_conserves hremaining sample hsplit
    simp only [EnergyAttribution.totalKwh]
    rw [gridDirectShare_eq hleft]
    linarith

/-- A total that is four roundings off at most is within the tolerance. -/
theorem withinTolerance_of_rounded {attributed target : ℚ} (h : |attributed - target| ≤ 4 * roundingUnitKwh)
    (htarget : 0 < target) : withinTolerance attributed target = true := by
  have hsmall : 4 * roundingUnitKwh ≤ attributionToleranceKwh := by
    norm_num [roundingUnitKwh, attributionToleranceKwh]
  simp only [withinTolerance]
  rw [if_neg (not_le.mpr htarget), decide_eq_true (h.trans hsmall), Bool.true_or]

/-- The rounded parts are close enough to the charged energy, so that they are never scaled. -/
theorem attribution_eq_rounded (sample : SiteEnergySample) (hcharged : 0 ≤ chargedKwh)
    (hsplit : SplitNonneg batteryDischarge) (evPowerW : Option ℚ) :
    (attributeInterval chargedKwh sample batteryDischarge evPowerW).attribution
      = (exactAttribution chargedKwh sample batteryDischarge).rounded := by
  rcases hcharged.eq_or_lt with hzero | hpos
  · have hnone : chargedKwh ≤ 0 := hzero.ge
    have hrounded : (exactAttribution chargedKwh sample batteryDischarge).rounded = {} := by
      rw [exactAttribution, if_pos hnone]
      simp [EnergyAttribution.rounded]
    rw [hrounded]
    simp only [attributeInterval]
    rw [if_pos hnone]
  · have hrounded : roundedParts chargedKwh sample batteryDischarge
        = (exactAttribution chargedKwh sample batteryDischarge).rounded := by
      rw [exactAttribution, if_neg (not_le.mpr hpos)]
      rfl
    have hclose := EnergyAttribution.abs_totalKwh_rounded_sub_le (exactAttribution chargedKwh sample batteryDischarge)
    rw [exactAttribution_totalKwh sample hcharged hsplit] at hclose
    rw [attribution_of_pos hpos, hrounded, if_pos (withinTolerance_of_rounded hclose hpos)]

end

/-- **Attribution conserves energy.** The parts are not negative, and add up to the charged energy exactly before they
are rounded, and within four roundings when they are returned. -/
theorem attributeInterval_conserves (chargedKwh : ℚ) (sample : SiteEnergySample)
    (batteryDischarge : Option BatteryDischargeSplit) (evPowerW : Option ℚ) (hcharged : 0 ≤ chargedKwh)
    (hsplit : SplitNonneg batteryDischarge) :
    (attributeInterval chargedKwh sample batteryDischarge evPowerW).attribution.Nonneg
      ∧ |(attributeInterval chargedKwh sample batteryDischarge evPowerW).attribution.totalKwh - chargedKwh| ≤ 2 / 10 ^ 4
      ∧ (attributeInterval chargedKwh sample batteryDischarge evPowerW).attribution
          = (exactAttribution chargedKwh sample batteryDischarge).rounded
      ∧ (exactAttribution chargedKwh sample batteryDischarge).Nonneg
      ∧ (exactAttribution chargedKwh sample batteryDischarge).totalKwh = chargedKwh := by
  have hexact := exactAttribution_totalKwh sample hcharged hsplit
  have hnonneg : (exactAttribution chargedKwh sample batteryDischarge).Nonneg := exactAttribution_nonneg sample hsplit
  have hrounded := attribution_eq_rounded sample hcharged hsplit evPowerW
  have hclose := EnergyAttribution.abs_totalKwh_rounded_sub_le (exactAttribution chargedKwh sample batteryDischarge)
  have hunit : 4 * roundingUnitKwh = 2 / 10 ^ 4 := by norm_num [roundingUnitKwh]
  rw [hexact, hunit] at hclose
  refine ⟨?_, ?_, hrounded, hnonneg, hexact⟩
  · rw [hrounded]
    exact hnonneg.rounded
  · rw [hrounded]
    exact hclose

/-- Export, a battery with both kinds of energy, and a rest that the import does not explain. -/
theorem attributeInterval_conserves_all_parts :
    (attributeInterval 3
        { pvPowerW := 2000, houseConsumptionW := 500, gridImportW := 100, gridExportW := 1000,
          batteryDischargeW := 800, durationHours := 1 }
        (some { solarKwh := 1 / 3, gridKwh := 1 / 6, gridCostSek := 1 }) none).attribution
      = { solarDirectKwh := 2, solarBatteryKwh := 3333 / 10000, gridBatteryKwh := 1667 / 10000,
          gridDirectKwh := 1 / 2 }
    ∧ |(attributeInterval 3
        { pvPowerW := 2000, houseConsumptionW := 500, gridImportW := 100, gridExportW := 1000,
          batteryDischargeW := 800, durationHours := 1 }
        (some { solarKwh := 1 / 3, gridKwh := 1 / 6, gridCostSek := 1 }) none).attribution.totalKwh - 3| ≤ 2 / 10 ^ 4 :=
  ⟨by decide +kernel, (attributeInterval_conserves 3 _ _ none (by norm_num)
    (fun d hd => by cases hd; exact ⟨by norm_num, by norm_num⟩)).2.1⟩

end EnergyCore.Accounting
