import EnergyCore.Accounting.Attribution
import EnergyCore.Prices.MarketPrices

/-!
# Sampling one interval

The part that `EVSessionSampler.sample_active_session` and `VehicleChargeSessionSampler` have in common:
the energy of the time since the last sample, by the meter register or else by power, its price, its
attribution and its costs.

* `takeSample_step` — what a sample can do: nothing, advance the clock, or record a measured or an
  estimated interval;
* `integratePowerKwh_pos_iff` — when a power shows up as energy at all.
-/

namespace EnergyCore.Accounting

open HalfEvenRounding Prices

/-! ### What a sampler reads -/

/-- One call of a sampler: the meter, the site's powers, and the rows that it looks up. -/
structure SampleInput where
  site : Site := {}
  meter : MeterSnapshot
  energySample : SiteEnergySample := {}
  ledgerRow : Option BatteryLedgerState := none
  settings : Settings := {}
  pricePeriods : List PricePeriod := []
  marketPrices : List MarketPriceRecord := []
  deriving Repr, DecidableEq

/-- The in-memory anchors that a sample starts from. -/
structure SampleAnchors where
  lastMeterKwh : Option ℚ := none
  lastSampleAt : Option Instant := none
  deriving Repr, DecidableEq

/-! ### The energy of an interval -/

def durationHours (start now : Instant) : ℚ := max 0 ((now - start) / 3600)

/-- The register's step since the last sample, if both positions are known and it is not a reset. -/
def registerDelta (lastMeterKwh cumulativeKwh : Option ℚ) : ℚ × String :=
  match lastMeterKwh, cumulativeKwh with
  | some last, some cumulative =>
    if cumulative - last ≥ 0 then (cumulative - last, "MEASURED") else (0, "ESTIMATED")
  | _, _ => (0, "ESTIMATED")

/-- Where nothing was charged so far, the energy of a power that is in use. -/
def orIntegrated (use : Prop) [Decidable use] (powerW hours : ℚ) (charged : ℚ × String) : ℚ × String :=
  if charged.1 ≤ 0 ∧ use then (integratePowerKwh powerW hours, "ESTIMATED") else charged

/-- The register's step, or else the charger's power, or else the site's EV power. -/
def chargedEnergy (lastMeterKwh : Option ℚ) (meter : MeterSnapshot) (evPowerW hours : ℚ) : ℚ × String :=
  orIntegrated (evPowerW > 0) evPowerW hours
    (orIntegrated (meter.powerW.getD 0 ≠ 0) (meter.powerW.getD 0) hours
      (registerDelta lastMeterKwh meter.cumulativeKwh))

/-! ### Its price and its record -/

/-- `value or fallback`: a price of zero counts as absent. -/
def priceOr (price : Option ℚ) (fallback : ℚ) : ℚ :=
  if price.getD 0 ≠ 0 then price.getD 0 else fallback

def samplePrice (input : SampleInput) : ℚ :=
  match input.energySample.electricityPriceSekKwh with
  | some price => price
  | none =>
    priceOr (readBack input.settings input.pricePeriods input.marketPrices input.site.id
      (hourStart input.meter.recordedAt)) input.site.fallbackPurchasePriceSekKwh

/-- `meter.power_w or energy_sample.ev_power_w`. -/
def sampledPowerW (input : SampleInput) : ℚ :=
  if input.meter.powerW.getD 0 ≠ 0 then input.meter.powerW.getD 0 else input.energySample.evPowerW

/-- The row that a sampler inserts. -/
def chargingInterval (input : SampleInput) (sessionId : ℕ) (start : Instant)
    (charged : ℚ × String) : ChargingInterval :=
  let now := input.meter.recordedAt
  let hours := durationHours start now
  let ledgerState := input.ledgerRow.getD {}
  let price := samplePrice input
  let dischargeSplit :=
    (updateLedger ledgerState input.energySample
      (priceOr (some price) input.site.fallbackPurchasePriceSekKwh)).2
  let attr := attributeInterval charged.1 input.energySample dischargeSplit
    (some (sampledPowerW input))
  let cost := intervalCosts attr.attribution (some price) ledgerState.gridAvgCostSekKwh
    input.site.exportCompensationSekKwh
  { sessionId := sessionId
    startTime := start
    endTime := now
    chargedEnergyKwh := charged.1
    averageChargingPowerW := if hours > 0 then charged.1 * 1000 / hours else 0
    pvProductionKwh := input.energySample.pvKwh
    houseConsumptionKwh := input.energySample.houseKwh
    gridImportKwh := input.energySample.gridImportKwh
    gridExportKwh := input.energySample.gridExportKwh
    batteryChargeKwh := input.energySample.batteryChargeKwh
    batteryDischargeKwh := input.energySample.batteryDischargeKwh
    electricityPriceSekKwh := some price
    attribution := attr.attribution
    actualCostSek := cost.actualCashCostSek
    referenceCostSek := cost.referenceCostSek
    savingsSek := cost.savingsSek
    confidence := attr.confidence
    dataQuality := if charged.2 = "MEASURED" then charged.2 else attr.dataQuality }

/-! ### A sample -/

/-- What a sample did to the session. -/
inductive SampleOutcome where
  | skipped
  | advanced
  | recorded (interval : ChargingInterval)
  deriving Repr, DecidableEq

/-- The sample of an active session, from its anchors. -/
def takeSample (input : SampleInput) (sessionId : ℕ) (sessionStart : Instant)
    (anchors : SampleAnchors) : SampleOutcome :=
  let now := input.meter.recordedAt
  let start := anchors.lastSampleAt.getD sessionStart
  let hours := durationHours start now
  if hours ≤ 0 then .skipped
  else
    let charged := chargedEnergy anchors.lastMeterKwh input.meter input.energySample.evPowerW hours
    if charged.1 ≤ 0 then .advanced
    else .recorded (chargingInterval input sessionId start charged)

namespace SampleOutcome

/-- The interval that a sample recorded. -/
def intervals : SampleOutcome → List ChargingInterval
  | skipped => []
  | advanced => []
  | recorded interval => [interval]

/-- The anchors after a sample. Only a recorded interval moves the meter anchor. -/
def anchors (before : SampleAnchors) (meter : MeterSnapshot) : SampleOutcome → SampleAnchors
  | skipped => before
  | advanced => { before with lastSampleAt := some meter.recordedAt }
  | recorded _ => { lastMeterKwh := meter.cumulativeKwh, lastSampleAt := some meter.recordedAt }

end SampleOutcome

/-! ### What a sample can do -/

/-- The energy that the powers show, when the register shows none. -/
def fallbackEnergyKwh (meter : MeterSnapshot) (evPowerW hours : ℚ) : ℚ :=
  if integratePowerKwh (meter.powerW.getD 0) hours ≤ 0 then integratePowerKwh evPowerW hours
  else integratePowerKwh (meter.powerW.getD 0) hours

theorem integratePowerKwh_of_nonpos {powerW : ℚ} (h : powerW ≤ 0) (hours : ℚ) :
    integratePowerKwh powerW hours = 0 := by
  unfold integratePowerKwh
  rw [if_pos (.inl h)]

/-- A power shows up as energy once it makes more than half of the last decimal, 0.05 Wh. -/
theorem integratePowerKwh_pos_iff (powerW hours : ℚ) :
    0 < integratePowerKwh powerW hours ↔ 0 < powerW ∧ 0 < hours ∧ 1 / 20 < powerW * hours := by
  unfold integratePowerKwh
  split_ifs with h
  · refine iff_of_false (lt_irrefl 0) ?_
    rintro ⟨hpower, hhours, -⟩
    rcases h with h | h
    · exact absurd hpower (not_lt.mpr h)
    · exact absurd hhours (not_lt.mpr h)
  · obtain ⟨hpower, hhours⟩ := not_or.mp h
    rw [not_le] at hpower hhours
    rw [roundDigits_pos_iff]
    constructor
    · intro hround
      exact ⟨hpower, hhours, by linarith⟩
    · rintro ⟨-, -, henergy⟩
      linarith

theorem fallbackEnergyKwh_nonneg (meter : MeterSnapshot) (evPowerW hours : ℚ) :
    0 ≤ fallbackEnergyKwh meter evPowerW hours := by
  unfold fallbackEnergyKwh
  split_ifs
  · exact integratePowerKwh_nonneg _ _
  · exact integratePowerKwh_nonneg _ _

/-- Over a positive time, the powers show as energy if either makes more than 0.05 Wh. -/
theorem fallbackEnergyKwh_pos_iff (meter : MeterSnapshot) (evPowerW : ℚ) {hours : ℚ} (hhours : 0 < hours) :
    0 < fallbackEnergyKwh meter evPowerW hours ↔ 1 / 20 < meter.powerW.getD 0 * hours ∨ 1 / 20 < evPowerW * hours := by
  have hpos : ∀ powerW, 0 < integratePowerKwh powerW hours ↔ 1 / 20 < powerW * hours := by
    intro powerW
    rw [integratePowerKwh_pos_iff]
    refine ⟨fun h => h.2.2, fun h => ⟨?_, hhours, h⟩⟩
    exact (pos_iff_pos_of_mul_pos (lt_trans (by norm_num) h)).mpr hhours
  unfold fallbackEnergyKwh
  split_ifs with hnone
  · rw [hpos, or_iff_right (fun h => not_lt.mpr hnone ((hpos _).mpr h))]
  · rw [hpos, or_iff_left_of_imp (fun _ => (hpos _).mp (not_le.mp hnone))]

theorem registerDelta_of_lt {last cumulative : ℚ} (h : last < cumulative) :
    registerDelta (some last) (some cumulative) = (cumulative - last, "MEASURED") := by
  have hnonneg : cumulative - last ≥ 0 := by linarith
  simp only [registerDelta]
  rw [if_pos hnonneg]

theorem registerDelta_nonpos {lastMeterKwh cumulativeKwh : Option ℚ}
    (h : ∀ last cumulative, lastMeterKwh = some last → cumulativeKwh = some cumulative → cumulative ≤ last) :
    (registerDelta lastMeterKwh cumulativeKwh).1 ≤ 0 := by
  unfold registerDelta
  split
  · rename_i last cumulative
    have hle := h last cumulative rfl rfl
    split_ifs
    · show cumulative - last ≤ 0
      linarith
    · exact le_rfl
  · exact le_rfl

theorem orIntegrated_of_pos {charged : ℚ × String} (h : 0 < charged.1) (use : Prop)
    [Decidable use] (powerW hours : ℚ) : orIntegrated use powerW hours charged = charged := by
  rw [orIntegrated, if_neg (fun hand => not_lt.mpr hand.1 h)]

/-- A power that is not in use has no energy either. -/
theorem orIntegrated_of_nonpos {charged : ℚ × String} (h : charged.1 ≤ 0) (use : Prop)
    [Decidable use] (powerW hours : ℚ) (huse : ¬ use → powerW ≤ 0) :
    orIntegrated use powerW hours charged = (integratePowerKwh powerW hours, "ESTIMATED") ∨
      orIntegrated use powerW hours charged = charged ∧ integratePowerKwh powerW hours = 0 := by
  by_cases hif : use
  · rw [orIntegrated, if_pos ⟨h, hif⟩]
    exact .inl rfl
  · rw [orIntegrated, if_neg (fun hand => hif hand.2)]
    exact .inr ⟨rfl, integratePowerKwh_of_nonpos (huse hif) hours⟩

/-- A step of the register is the energy. -/
theorem chargedEnergy_of_lt {last cumulative : ℚ} (h : last < cumulative) {meter : MeterSnapshot}
    (hmeter : meter.cumulativeKwh = some cumulative) (evPowerW hours : ℚ) :
    chargedEnergy (some last) meter evPowerW hours = (cumulative - last, "MEASURED") := by
  have hpos : 0 < ((cumulative - last, "MEASURED") : ℚ × String).1 := sub_pos.mpr h
  rw [chargedEnergy, hmeter, registerDelta_of_lt h, orIntegrated_of_pos hpos, orIntegrated_of_pos hpos]

/-- When the register shows no step, the energy is the fallback's. -/
theorem chargedEnergy_of_nonpos {lastMeterKwh : Option ℚ} {meter : MeterSnapshot}
    (hdelta : (registerDelta lastMeterKwh meter.cumulativeKwh).1 ≤ 0) (evPowerW hours : ℚ) :
    (chargedEnergy lastMeterKwh meter evPowerW hours).1 ≤ 0 ∧ fallbackEnergyKwh meter evPowerW hours = 0 ∨
      chargedEnergy lastMeterKwh meter evPowerW hours = (fallbackEnergyKwh meter evPowerW hours, "ESTIMATED") := by
  have hmeter := orIntegrated_of_nonpos hdelta (meter.powerW.getD 0 ≠ 0) (meter.powerW.getD 0)
    hours (fun h => (not_not.mp h).le)
  unfold chargedEnergy fallbackEnergyKwh
  set first := orIntegrated (meter.powerW.getD 0 ≠ 0) (meter.powerW.getD 0) hours
    (registerDelta lastMeterKwh meter.cumulativeKwh)
  by_cases hnone : integratePowerKwh (meter.powerW.getD 0) hours ≤ 0
  · have hfirst : first.1 ≤ 0 := by
      rcases hmeter with h | ⟨h, -⟩
      · rw [h]
        exact hnone
      · rw [h]
        exact hdelta
    rw [if_pos hnone]
    rcases orIntegrated_of_nonpos hfirst (evPowerW > 0) evPowerW hours not_lt.mp with h | ⟨h, hzero⟩
    · exact .inr h
    · rw [h]
      exact .inl ⟨hfirst, hzero⟩
  · have hfirst : first = (integratePowerKwh (meter.powerW.getD 0) hours, "ESTIMATED") := by
      rcases hmeter with h | ⟨-, hzero⟩
      · exact h
      · exact absurd hzero.le hnone
    rw [if_neg hnone, hfirst, orIntegrated_of_pos (not_le.mp hnone)]
    exact .inr rfl

/-- One rule for each way a sample can go, with everything that it depends on. -/
inductive SampleStep (input : SampleInput) (sessionId : ℕ) (start : Instant)
    (lastMeterKwh : Option ℚ) : SampleOutcome → Prop where
  | skipped (hlate : input.meter.recordedAt ≤ start) :
      SampleStep input sessionId start lastMeterKwh .skipped
  | advanced (htime : start < input.meter.recordedAt)
      (hregister : ∀ last cumulative, lastMeterKwh = some last →
        input.meter.cumulativeKwh = some cumulative → cumulative ≤ last)
      (hpower : fallbackEnergyKwh input.meter input.energySample.evPowerW
        (durationHours start input.meter.recordedAt) = 0) :
      SampleStep input sessionId start lastMeterKwh .advanced
  | measured (htime : start < input.meter.recordedAt) (last cumulative : ℚ)
      (hlast : lastMeterKwh = some last) (hcumulative : input.meter.cumulativeKwh = some cumulative)
      (hstep : last < cumulative) :
      SampleStep input sessionId start lastMeterKwh
        (.recorded (chargingInterval input sessionId start (cumulative - last, "MEASURED")))
  | estimated (htime : start < input.meter.recordedAt)
      (hregister : ∀ last cumulative, lastMeterKwh = some last →
        input.meter.cumulativeKwh = some cumulative → cumulative ≤ last)
      (hpower : 0 < fallbackEnergyKwh input.meter input.energySample.evPowerW
        (durationHours start input.meter.recordedAt)) :
      SampleStep input sessionId start lastMeterKwh
        (.recorded (chargingInterval input sessionId start
          (fallbackEnergyKwh input.meter input.energySample.evPowerW
            (durationHours start input.meter.recordedAt), "ESTIMATED")))

theorem durationHours_pos_iff (start now : Instant) : 0 < durationHours start now ↔ start < now := by
  unfold durationHours
  rw [lt_max_iff, or_iff_right (lt_irrefl 0), div_pos_iff_of_pos_right (by norm_num), sub_pos]

/-- **A sample takes one of the four ways.** -/
theorem takeSample_step (input : SampleInput) (sessionId : ℕ) (sessionStart : Instant) (anchors : SampleAnchors) :
    SampleStep input sessionId (anchors.lastSampleAt.getD sessionStart) anchors.lastMeterKwh
      (takeSample input sessionId sessionStart anchors) := by
  set start := anchors.lastSampleAt.getD sessionStart with hstart
  simp only [takeSample, ← hstart]
  by_cases htime : start < input.meter.recordedAt
  · have hhours : ¬ durationHours start input.meter.recordedAt ≤ 0 :=
      not_le.mpr ((durationHours_pos_iff _ _).mpr htime)
    rw [if_neg hhours]
    by_cases hregister : ∀ last cumulative, anchors.lastMeterKwh = some last →
        input.meter.cumulativeKwh = some cumulative → cumulative ≤ last
    · rcases chargedEnergy_of_nonpos (registerDelta_nonpos hregister)
        input.energySample.evPowerW (durationHours start input.meter.recordedAt)
        with ⟨hnone, hzero⟩ | heq
      · rw [if_pos hnone]
        exact .advanced htime hregister hzero
      · rw [heq]
        split_ifs with hnone
        · exact .advanced htime hregister (le_antisymm hnone (fallbackEnergyKwh_nonneg _ _ _))
        · exact .estimated htime hregister (not_le.mp hnone)
    · push Not at hregister
      obtain ⟨last, cumulative, hlast, hcumulative, hstep⟩ := hregister
      rw [hlast, chargedEnergy_of_lt hstep hcumulative, if_neg (by simpa using hstep)]
      exact .measured htime last cumulative rfl hcumulative hstep
  · have hhours : durationHours start input.meter.recordedAt ≤ 0 :=
      not_lt.mp fun h => htime ((durationHours_pos_iff _ _).mp h)
    rw [if_pos hhours]
    exact .skipped (not_lt.mp htime)

end EnergyCore.Accounting
