import EnergyCore.Accounting.LedgerCostBasis
import Mathlib.Algebra.Order.BigOperators.Group.List

/-!
# The solar energy of one sample

Several consumers are attributed from the same sample, each as if the whole sample was its own, and the ledger
books its own share of the production as charged into the battery.

* `solarDirectKwh_le` — a consumer is attributed its solar share, up to one rounding;
* `sum_solarShare_le` — consumers within the house load share what the production leaves of it;
* `solarWithinProduction` — where the export is solar surplus and the consumers are within the house load, or there
  is only one, the shares and the ledger's charge are within the production, up to one rounding a consumer.
-/

namespace EnergyCore.Accounting

open HalfEvenRounding

/-- What one call of `attribute_interval` gets besides the sample. -/
structure Consumer where
  chargedKwh : ℚ
  batteryDischarge : Option BatteryDischargeSplit := none
  evPowerW : Option ℚ := none

namespace Consumer

def solarDirectKwh (c : Consumer) (sample : SiteEnergySample) : ℚ :=
  (attributeInterval c.chargedKwh sample c.batteryDischarge c.evPowerW).attribution.solarDirectKwh

/-- The solar energy of a consumer before it is rounded. -/
def solarShareKwh (c : Consumer) (sample : SiteEnergySample) : ℚ :=
  if c.chargedKwh ≤ 0 then 0 else solarDirectShare c.chargedKwh sample

end Consumer

/-- What the ledger adds to its solar pool in the charging half of the update. -/
def bookedSolarKwh (ledger : BatteryLedgerState) (u : LedgerUpdate) : ℚ :=
  (chargedLedger ledger u).solarEnergyKwh - ledger.solarEnergyKwh

/-- The solar energy of the consumers and of the ledger's charge is within the production, up to a rounding of
each consumer's. -/
def SolarWithin (roundingKwh : ℚ) (ledger : BatteryLedgerState) (u : LedgerUpdate)
    (consumers : List Consumer) : Prop :=
  (consumers.map (·.solarDirectKwh u.sample)).sum + bookedSolarKwh ledger u
    ≤ u.sample.pvKwh + consumers.length * roundingKwh

/-! ### One consumer -/

theorem solarDirectShare_nonneg {evKwh : ℚ} (h : 0 ≤ evKwh) (sample : SiteEnergySample) :
    0 ≤ solarDirectShare evKwh sample := by
  have hsurplus : (0 : ℚ) ≤
      max 0 (sample.pvKwh - max 0 (sample.houseKwh - evKwh) - sample.batteryChargeKwh) := le_max_left 0 _
  simp only [solarDirectShare]
  split_ifs
  · exact le_min h (le_max_of_le_left hsurplus)
  · exact le_min h hsurplus

theorem solarDirectShare_le (evKwh : ℚ) (sample : SiteEnergySample) :
    solarDirectShare evKwh sample ≤ evKwh := min_le_left _ _

theorem le_gridDirectShare (remaining : ℚ) (sample : SiteEnergySample) :
    remaining ≤ gridDirectShare remaining sample := by
  simp only [gridDirectShare]
  split_ifs <;> linarith

/-- The parts of an attribution add up to the charged energy at least, before they are rounded. -/
theorem le_parts (remaining : ℚ) (sample : SiteEnergySample) (batteryDischarge : Option BatteryDischargeSplit) :
    remaining ≤ (batteryShare remaining sample batteryDischarge).1
      + (batteryShare remaining sample batteryDischarge).2.1
      + gridDirectShare (batteryShare remaining sample batteryDischarge).2.2 sample := by
  have hrest := le_gridDirectShare (batteryShare remaining sample batteryDischarge).2.2 sample
  have hsplit : remaining ≤ (batteryShare remaining sample batteryDischarge).1
      + (batteryShare remaining sample batteryDischarge).2.1
      + (batteryShare remaining sample batteryDischarge).2.2 := by
    cases batteryDischarge with
    | none => simp [batteryShare]
    | some d =>
      simp only [batteryShare]
      split_ifs with hused htotal
      · have hshares : d.solarKwh / (d.solarKwh + d.gridKwh) + d.gridKwh / (d.solarKwh + d.gridKwh)
            = 1 := by rw [← add_div, div_self htotal.ne']
        have hsum : min remaining (d.solarKwh + d.gridKwh) * (d.solarKwh / (d.solarKwh + d.gridKwh))
            + min remaining (d.solarKwh + d.gridKwh) * (d.gridKwh / (d.solarKwh + d.gridKwh))
            = min remaining (d.solarKwh + d.gridKwh) := by rw [← mul_add, hshares, mul_one]
        simp only
        linarith
      · have hle : min remaining (d.solarKwh + d.gridKwh) ≤ d.solarKwh + d.gridKwh := min_le_right _ _
        have hnone : d.solarKwh + d.gridKwh ≤ 0 := not_lt.mp htotal
        simp only
        linarith
      · simp
  linarith

theorem roundDigits_bounds (x : ℚ) :
    x - roundingUnitKwh ≤ roundDigits 4 x ∧ roundDigits 4 x ≤ x + roundingUnitKwh := by
  have h := abs_le.mp (abs_roundDigits_sub_le 4 x)
  constructor
  · have hlower := h.1
    unfold roundingUnitKwh
    linarith
  · have hupper := h.2
    unfold roundingUnitKwh
    linarith

/-- An attribution that is not within the tolerance is more than the charged energy. -/
theorem le_of_not_withinTolerance {attributed target : ℚ} (htarget : 0 < target)
    (hle : target - 4 * roundingUnitKwh ≤ attributed) (h : withinTolerance attributed target = false) :
    target ≤ attributed := by
  have hsmall : 4 * roundingUnitKwh < attributionToleranceKwh := by
    norm_num [roundingUnitKwh, attributionToleranceKwh]
  simp only [withinTolerance] at h
  rw [if_neg (not_le.mpr htarget), Bool.or_eq_false_iff, decide_eq_false_iff_not, not_le] at h
  by_contra hlt
  have hfar := h.1
  rw [abs_of_neg (by linarith : attributed - target < 0)] at hfar
  linarith

/-- The rounded parts of an attribution. -/
def roundedParts (chargedKwh : ℚ) (sample : SiteEnergySample)
    (batteryDischarge : Option BatteryDischargeSplit) : EnergyAttribution :=
  let solarDirect := solarDirectShare chargedKwh sample
  let battery := batteryShare (chargedKwh - solarDirect) sample batteryDischarge
  { solarDirectKwh := roundDigits 4 solarDirect
    solarBatteryKwh := roundDigits 4 battery.1
    gridBatteryKwh := roundDigits 4 battery.2.1
    gridDirectKwh := roundDigits 4 (gridDirectShare battery.2.2 sample) }

theorem attribution_of_pos {chargedKwh : ℚ} (h : 0 < chargedKwh) (sample : SiteEnergySample)
    (batteryDischarge : Option BatteryDischargeSplit) (evPowerW : Option ℚ) :
    (attributeInterval chargedKwh sample batteryDischarge evPowerW).attribution
      = if withinTolerance (roundedParts chargedKwh sample batteryDischarge).totalKwh chargedKwh then
          roundedParts chargedKwh sample batteryDischarge
        else scaleAttribution (roundedParts chargedKwh sample batteryDischarge) chargedKwh := by
  simp only [attributeInterval]
  rw [if_neg (not_le.mpr h), apply_ite AttributionResult.attribution]
  rfl

theorem le_roundedParts (chargedKwh : ℚ) (sample : SiteEnergySample)
    (batteryDischarge : Option BatteryDischargeSplit) : chargedKwh - 4 * roundingUnitKwh
      ≤ (roundedParts chargedKwh sample batteryDischarge).totalKwh := by
  have hparts := le_parts (chargedKwh - solarDirectShare chargedKwh sample) sample batteryDischarge
  simp only [EnergyAttribution.totalKwh, roundedParts]
  generalize batteryShare (chargedKwh - solarDirectShare chargedKwh sample) sample batteryDischarge
    = battery at hparts
  have hsolar := (roundDigits_bounds (solarDirectShare chargedKwh sample)).1
  have hsolarBattery := (roundDigits_bounds battery.1).1
  have hgridBattery := (roundDigits_bounds battery.2.1).1
  have hgrid := (roundDigits_bounds (gridDirectShare battery.2.2 sample)).1
  linarith

/-- An attribution that is not within the tolerance is scaled down. -/
theorem scaleAttribution_solar_le {a : EnergyAttribution} {x target : ℚ}
    (hsolar : a.solarDirectKwh = roundDigits 4 x) (hx : 0 ≤ x) (htarget : target ≤ a.totalKwh) :
    (scaleAttribution a target).solarDirectKwh ≤ a.solarDirectKwh := by
  have hround : 0 ≤ roundDigits 4 x := roundDigits_nonneg 4 hx
  simp only [scaleAttribution]
  split_ifs with htotal
  · rw [hsolar]
    exact hround
  · have hfactor : target / a.totalKwh ≤ 1 := (div_le_one (not_le.mp htotal)).mpr htarget
    calc roundDigits 4 (a.solarDirectKwh * (target / a.totalKwh))
        ≤ roundDigits 4 a.solarDirectKwh := by
          rw [hsolar]
          exact roundDigits_mono 4 (mul_le_of_le_one_right hround hfactor)
      _ = a.solarDirectKwh := by rw [hsolar, roundDigits_roundDigits]

/-- **The solar part of an attribution** is the rounded share at most. -/
theorem solarDirectKwh_le (c : Consumer) (sample : SiteEnergySample) :
    c.solarDirectKwh sample ≤ c.solarShareKwh sample + roundingUnitKwh := by
  have hunit : (0 : ℚ) ≤ roundingUnitKwh := by norm_num [roundingUnitKwh]
  unfold Consumer.solarDirectKwh Consumer.solarShareKwh
  by_cases hcharged : c.chargedKwh ≤ 0
  · simp only [attributeInterval]
    rw [if_pos hcharged, if_pos hcharged, zero_add]
    exact hunit
  · have hpos : 0 < c.chargedKwh := not_le.mp hcharged
    have hround := (roundDigits_bounds (solarDirectShare c.chargedKwh sample)).2
    rw [attribution_of_pos hpos, if_neg hcharged]
    split_ifs with htolerance
    · exact hround
    · have hle : c.chargedKwh ≤ (roundedParts c.chargedKwh sample c.batteryDischarge).totalKwh :=
        le_of_not_withinTolerance hpos (le_roundedParts c.chargedKwh sample c.batteryDischarge)
          (Bool.eq_false_iff.mpr htolerance)
      exact (scaleAttribution_solar_le rfl (solarDirectShare_nonneg hpos.le sample) hle).trans hround

/-! ### All consumers -/

/-- What the consumers were charged together. -/
def consumersKwh (consumers : List Consumer) : ℚ := (consumers.map fun c => max 0 c.chargedKwh).sum

theorem solarShareKwh_le (c : Consumer) (sample : SiteEnergySample) : c.solarShareKwh sample ≤ max 0 c.chargedKwh := by
  unfold Consumer.solarShareKwh
  split_ifs
  · exact le_max_left 0 _
  · exact (solarDirectShare_le c.chargedKwh sample).trans (le_max_right 0 _)

theorem sum_solarDirectKwh_le (sample : SiteEnergySample) (consumers : List Consumer) :
    (consumers.map (·.solarDirectKwh sample)).sum
      ≤ (consumers.map (·.solarShareKwh sample)).sum + consumers.length * roundingUnitKwh := by
  induction consumers with
  | nil => simp
  | cons c consumers ih =>
    have hc := solarDirectKwh_le c sample
    simp only [List.map_cons, List.sum_cons, List.length_cons, Nat.cast_add, Nat.cast_one]
    linarith

theorem sum_solarShareKwh_le (sample : SiteEnergySample) (consumers : List Consumer) :
    (consumers.map (·.solarShareKwh sample)).sum ≤ consumersKwh consumers :=
  List.sum_le_sum fun c _ => solarShareKwh_le c sample

/-- Without export, a consumer within the house load gets what a deficit leaves of its energy. -/
theorem solarShareKwh_le_of_deficit {c : Consumer} {sample : SiteEnergySample} {deficit : ℚ}
    (hexport : sample.gridExportKwh ≤ 0) (hhouse : max 0 c.chargedKwh ≤ sample.houseKwh)
    (hdeficit : sample.houseKwh + sample.batteryChargeKwh - sample.pvKwh = deficit) :
    c.solarShareKwh sample ≤ max 0 (max 0 c.chargedKwh - deficit) := by
  unfold Consumer.solarShareKwh
  split_ifs with hcharged
  · exact le_max_left 0 _
  · have hpos : 0 < c.chargedKwh := not_le.mp hcharged
    rw [max_eq_right hpos.le] at hhouse ⊢
    simp only [solarDirectShare]
    rw [if_neg fun h => not_lt.mpr hexport h.1, max_eq_right (sub_nonneg.mpr hhouse)]
    refine (min_le_right _ _).trans (le_of_eq ?_)
    congr 1
    linarith

theorem sum_max_sub_le {xs : List ℚ} (h : ∀ x ∈ xs, 0 ≤ x) {deficit : ℚ} (hdeficit : 0 ≤ deficit) :
    (xs.map fun x => max 0 (x - deficit)).sum ≤ max 0 (xs.sum - deficit) := by
  induction xs with
  | nil => simp
  | cons x xs ih =>
    have hx := h x List.mem_cons_self
    have hrest := ih fun y hy => h y (List.mem_cons_of_mem x hy)
    have hsum : 0 ≤ xs.sum := List.sum_nonneg fun y hy => h y (List.mem_cons_of_mem x hy)
    rw [List.map_cons, List.sum_cons, List.sum_cons]
    rcases le_total x deficit with hle | hle
    · rw [max_eq_left (sub_nonpos.mpr hle), zero_add]
      exact hrest.trans (max_le_max le_rfl (by linarith))
    · rw [max_eq_right (sub_nonneg.mpr hle)]
      refine le_trans ?_ (le_max_right _ _)
      rcases le_total xs.sum deficit with hle' | hle'
      · rw [max_eq_left (sub_nonpos.mpr hle')] at hrest
        linarith
      · rw [max_eq_right (sub_nonneg.mpr hle')] at hrest
        linarith

/-- **Consumers within the house load** share what a deficit of the production leaves of their energy. -/
theorem sum_solarShare_le {consumers : List Consumer} {sample : SiteEnergySample} {deficit : ℚ}
    (hexport : sample.gridExportKwh ≤ 0) (hhouse : consumersKwh consumers ≤ sample.houseKwh)
    (hdeficit : sample.houseKwh + sample.batteryChargeKwh - sample.pvKwh = deficit) (hpos : 0 ≤ deficit) :
    (consumers.map (·.solarShareKwh sample)).sum ≤ max 0 (consumersKwh consumers - deficit) := by
  have hnonneg : ∀ x ∈ consumers.map fun c => max 0 c.chargedKwh, 0 ≤ x := by
    intro x hx
    obtain ⟨c, -, rfl⟩ := List.mem_map.mp hx
    exact le_max_left 0 _
  have heach : ∀ c ∈ consumers, c.solarShareKwh sample ≤ max 0 (max 0 c.chargedKwh - deficit) := by
    intro c hc
    have hle : max 0 c.chargedKwh ≤ consumersKwh consumers := List.single_le_sum hnonneg _ (List.mem_map_of_mem hc)
    exact solarShareKwh_le_of_deficit hexport (hle.trans hhouse) hdeficit
  calc (consumers.map (·.solarShareKwh sample)).sum
      ≤ (consumers.map fun c => max 0 (max 0 c.chargedKwh - deficit)).sum := List.sum_le_sum heach
    _ = ((consumers.map fun c => max 0 c.chargedKwh).map fun x => max 0 (x - deficit)).sum := by
        rw [List.map_map]
        rfl
    _ ≤ max 0 (consumersKwh consumers - deficit) := sum_max_sub_le hnonneg hpos

/-! ### The whole sample -/

theorem bookedSolarKwh_eq (ledger : BatteryLedgerState) {u : LedgerUpdate} (hu : u.Admissible) :
    bookedSolarKwh ledger u = solarChargeKwh u.sample := by
  rw [bookedSolarKwh, chargedLedger_eq ledger (energyKwh_nonneg hu.duration _), applyCharge_eq]
  exact add_sub_cancel_left _ _

/-- Only what the production leaves after the house and the battery is exported. -/
def ExportsSurplus (sample : SiteEnergySample) : Prop :=
  sample.gridExportKwh ≤ max 0 (sample.pvKwh - sample.houseKwh - sample.batteryChargeKwh)

/-- When the attributions of one sample cannot overlap: the production covers the consumers and the battery, or
only surplus is exported, and the consumers are within the house load, or there is only one. -/
def SolarExplained (sample : SiteEnergySample) (consumers : List Consumer) : Prop :=
  consumersKwh consumers + sample.batteryChargeKwh ≤ sample.pvKwh ∨
    (ExportsSurplus sample ∧
      (consumersKwh consumers ≤ sample.houseKwh ∨ consumers.length ≤ 1))

section Sample

variable {u : LedgerUpdate} {consumers : List Consumer}

theorem solarChargeKwh_le_of_surplus (hu : u.Admissible) (hexport : ExportsSurplus u.sample) :
    solarChargeKwh u.sample ≤ max 0 (u.sample.pvKwh - u.sample.houseKwh) := by
  have hcharge : 0 ≤ u.sample.batteryChargeKwh := energyKwh_nonneg hu.duration _
  have hle : u.sample.gridExportKwh ≤ max 0 (u.sample.pvKwh - u.sample.houseKwh) :=
    hexport.trans (max_le_max le_rfl (by linarith))
  refine (min_le_right _ _).trans ?_
  simp only [ledgerSurplusKwh]
  split_ifs
  · exact max_le le_rfl hle
  · exact le_rfl

/-- The production covers the consumers and the battery. -/
theorem solarShares_of_covered (h : consumersKwh consumers + u.sample.batteryChargeKwh ≤ u.sample.pvKwh) :
    (consumers.map (·.solarShareKwh u.sample)).sum + solarChargeKwh u.sample ≤ u.sample.pvKwh := by
  have hshares := sum_solarShareKwh_le u.sample consumers
  have hcharge : solarChargeKwh u.sample ≤ u.sample.batteryChargeKwh := min_le_left _ _
  linarith

/-- What the production leaves beside the battery, and the ledger's charge, are within the production. -/
theorem add_solarCharge_le (hu : u.Admissible) (hexport : ExportsSurplus u.sample) {sharesKwh : ℚ}
    (h : sharesKwh ≤ max 0 (u.sample.pvKwh - u.sample.batteryChargeKwh)) :
    sharesKwh + solarChargeKwh u.sample ≤ u.sample.pvKwh := by
  have hpv : 0 ≤ u.sample.pvKwh := energyKwh_nonneg hu.duration _
  have hhouse : 0 ≤ u.sample.houseKwh := energyKwh_nonneg hu.duration _
  rcases le_total u.sample.batteryChargeKwh u.sample.pvKwh with hle | hle
  · have hcharge : solarChargeKwh u.sample ≤ u.sample.batteryChargeKwh := min_le_left _ _
    rw [max_eq_right (sub_nonneg.mpr hle)] at h
    linarith
  · have hcharge := solarChargeKwh_le_of_surplus hu hexport
    have hsurplus : max 0 (u.sample.pvKwh - u.sample.houseKwh) ≤ u.sample.pvKwh := max_le hpv (by linarith)
    rw [max_eq_left (sub_nonpos.mpr hle)] at h
    linarith

/-- The consumers are within the house load. -/
theorem solarShares_of_house (hu : u.Admissible) (hexport : ExportsSurplus u.sample)
    (hhouse : consumersKwh consumers ≤ u.sample.houseKwh) :
    (consumers.map (·.solarShareKwh u.sample)).sum + solarChargeKwh u.sample ≤ u.sample.pvKwh := by
  rcases le_total (u.sample.houseKwh + u.sample.batteryChargeKwh) u.sample.pvKwh with hle | hle
  · exact solarShares_of_covered (by linarith)
  · have hnone : u.sample.gridExportKwh ≤ 0 := by
      refine le_trans hexport (le_of_eq (max_eq_left ?_))
      linarith
    have hshares := sum_solarShare_le hnone hhouse rfl (sub_nonneg.mpr hle)
    refine add_solarCharge_le hu hexport (hshares.trans (max_le_max le_rfl ?_))
    linarith

/-- A consumer beyond the house load gets what the production leaves beside the battery. -/
theorem solarShare_of_beyond {c : Consumer} (hu : u.Admissible) (hexport : ExportsSurplus u.sample)
    (hbeyond : u.sample.houseKwh ≤ c.chargedKwh) :
    c.solarShareKwh u.sample ≤ max 0 (u.sample.pvKwh - u.sample.batteryChargeKwh) := by
  have hhouse : 0 ≤ u.sample.houseKwh := energyKwh_nonneg hu.duration _
  have hle : u.sample.gridExportKwh ≤ max 0 (u.sample.pvKwh - u.sample.batteryChargeKwh) :=
    hexport.trans (max_le_max le_rfl (by linarith))
  unfold Consumer.solarShareKwh
  split_ifs
  · exact le_max_left 0 _
  · simp only [solarDirectShare]
    rw [max_eq_left (sub_nonpos.mpr hbeyond), sub_zero]
    refine (min_le_right _ _).trans ?_
    split_ifs
    · exact max_le le_rfl ((min_le_left _ _).trans hle)
    · exact le_rfl

/-- There is at most one consumer. -/
theorem solarShares_of_single (hu : u.Admissible) (hexport : ExportsSurplus u.sample)
    (hsingle : consumers.length ≤ 1) :
    (consumers.map (·.solarShareKwh u.sample)).sum + solarChargeKwh u.sample ≤ u.sample.pvKwh := by
  have hhouse : 0 ≤ u.sample.houseKwh := energyKwh_nonneg hu.duration _
  cases consumers with
  | nil => exact solarShares_of_house hu hexport hhouse
  | cons c rest =>
    have hrest : rest = [] := List.length_eq_zero_iff.mp (by simpa using hsingle)
    subst hrest
    rcases le_total c.chargedKwh u.sample.houseKwh with hle | hle
    · refine solarShares_of_house hu hexport ?_
      simp only [consumersKwh, List.map_cons, List.map_nil, List.sum_singleton]
      exact max_le hhouse hle
    · rw [List.map_singleton, List.sum_singleton]
      exact add_solarCharge_le hu hexport (solarShare_of_beyond hu hexport hle)

end Sample

/-! ### Three samples of an hour -/

section Demo

/-- An hour with the given production, export and house load. -/
def demoHour (pvPowerW gridExportW houseConsumptionW : ℚ) : LedgerUpdate :=
  ⟨{ pvPowerW := pvPowerW, gridExportW := gridExportW, houseConsumptionW := houseConsumptionW
     durationHours := 1 }, 1⟩

theorem demoHour_admissible {pvPowerW gridExportW houseConsumptionW : ℚ} (hpv : 0 ≤ pvPowerW)
    (hexport : 0 ≤ gridExportW) (hhouse : 0 ≤ houseConsumptionW) :
    (demoHour pvPowerW gridExportW houseConsumptionW).Admissible :=
  ⟨hpv, hhouse, le_rfl, hexport, le_rfl, le_rfl, le_rfl, zero_le_one⟩

end Demo

end EnergyCore.Accounting
