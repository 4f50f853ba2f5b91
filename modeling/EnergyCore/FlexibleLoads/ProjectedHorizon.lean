import EnergyCore.FlexibleLoads.Horizon
import EnergyCore.Foundations.BoundedStock
import Mathlib.Tactic.FieldSimp
import Mathlib.Tactic.NormNum
import Mathlib.Tactic.Positivity

/-!
# The projected horizon

How the state of charge goes on from block to block, and what the blocks of the horizon are built from.

* `projectFrom_eq` — the projection is a stock between the reserve and full;
* `project_sound` — it stays in bounds, is monotone, and keeps to the power limits;
* `forecastFree_iff` — when the prices do not depend on the solar forecast, nor the projection on a default.
-/

namespace EnergyCore.FlexibleLoads

open BoundedStock

/-! ### A battery is a stock -/

/-- A configuration whose limits are no powers below zero. -/
structure ProperConfig (config : BatteryProjectionConfig) : Prop where
  capacity_pos : 0 < config.batteryCapacityKwh
  interval_nonneg : 0 ≤ config.intervalHours
  charge_nonneg : 0 ≤ config.maxChargePowerW
  discharge_nonneg : 0 ≤ config.maxDischargePowerW
  efficiency_pos : 0 < config.roundTripEfficiency
  efficiency_le_one : config.roundTripEfficiency ≤ 1

namespace BatteryProjectionConfig

/-- A state of charge between the reserve and full. -/
def Allows (config : BatteryProjectionConfig) (socPct : ℚ) : Prop := config.reserveSocPct ≤ socPct ∧ socPct ≤ 100

/-- The energy of a part of the capacity, in watt-hours. -/
def energyWh (config : BatteryProjectionConfig) (pct : ℚ) : ℚ := pct / 100 * (config.batteryCapacityKwh * 1000)

/-- What a surplus adds to the state of charge, or a deficit takes from it. -/
def addedPct (config : BatteryProjectionConfig) (surplusW : ℚ) : ℚ :=
  (if surplusW > 0 then
    min surplusW config.maxChargePowerW * config.intervalHours * config.roundTripEfficiency
  else
    -(min |surplusW| config.maxDischargePowerW * config.intervalHours / max config.roundTripEfficiency (1 / 100)))
    / (config.batteryCapacityKwh * 1000) * 100

end BatteryProjectionConfig

variable {config : BatteryProjectionConfig}

theorem ProperConfig.efficiency_max_pos (h : ProperConfig config) : 0 < max config.roundTripEfficiency (1 / 100) :=
  lt_max_of_lt_left h.efficiency_pos

theorem ProperConfig.capacityWh_pos (h : ProperConfig config) : 0 < config.batteryCapacityKwh * 1000 :=
  mul_pos h.capacity_pos (by norm_num)

theorem ProperConfig.addedPct_nonneg (h : ProperConfig config) {surplusW : ℚ} (hpos : 0 < surplusW) :
    0 ≤ config.addedPct surplusW := by
  have hcharge := h.charge_nonneg
  have hinterval := h.interval_nonneg
  have hefficiency := h.efficiency_pos
  have hcapacity := h.capacity_pos
  unfold BatteryProjectionConfig.addedPct
  rw [if_pos hpos]
  positivity

theorem ProperConfig.addedPct_nonpos (h : ProperConfig config) {surplusW : ℚ} (hneg : surplusW ≤ 0) :
    config.addedPct surplusW ≤ 0 := by
  have hdischarge := h.discharge_nonneg
  have hinterval := h.interval_nonneg
  have hefficiency := h.efficiency_max_pos
  have hcapacity := h.capacity_pos
  unfold BatteryProjectionConfig.addedPct
  rw [if_neg (not_lt.mpr hneg), neg_div, neg_mul, neg_nonpos]
  positivity

/-- More surplus adds more, or takes less. -/
theorem ProperConfig.addedPct_mono (h : ProperConfig config) : Monotone config.addedPct := by
  intro s s' hle
  have hinterval := h.interval_nonneg
  have hefficiency := h.efficiency_pos
  have hmax := h.efficiency_max_pos
  have hcapacity := h.capacityWh_pos
  rcases lt_or_ge 0 s with hs | hs
  · have hs' : 0 < s' := hs.trans_le hle
    unfold BatteryProjectionConfig.addedPct
    rw [if_pos hs, if_pos hs']
    gcongr
  · rcases lt_or_ge 0 s' with hs' | hs'
    · exact (h.addedPct_nonpos hs).trans (h.addedPct_nonneg hs')
    · have habs : |s'| ≤ |s| := by
        rw [abs_of_nonpos hs, abs_of_nonpos hs']
        exact neg_le_neg hle
      unfold BatteryProjectionConfig.addedPct
      rw [if_neg (not_lt.mpr hs), if_neg (not_lt.mpr hs')]
      gcongr

/-- A block with a surplus changes the stock by what the surplus adds. -/
theorem nextSocPct_eq (h : ProperConfig config) {socPct : ℚ} (hsoc : config.Allows socPct) (surplusW : ℚ) :
    nextSocPct config socPct surplusW = changed config.reserveSocPct 100 socPct (config.addedPct surplusW) := by
  have hfull : config.reserveSocPct ≤ 100 := hsoc.1.trans hsoc.2
  unfold nextSocPct changed
  dsimp only
  split_ifs with hpos hneg
  · have hadded := h.addedPct_nonneg hpos
    have hreserve : config.reserveSocPct ≤ socPct + config.addedPct surplusW := hsoc.1.trans (le_add_of_nonneg_right hadded)
    rw [max_eq_right (le_min hfull hreserve), BatteryProjectionConfig.addedPct, if_pos hpos]
  · have hadded := h.addedPct_nonpos hneg.le
    have hhigh : socPct + config.addedPct surplusW ≤ 100 := (add_le_of_nonpos_right hadded).trans hsoc.2
    rw [min_eq_right hhigh, BatteryProjectionConfig.addedPct, if_neg hpos, neg_div, neg_mul, ← sub_eq_add_neg]
  · obtain rfl : surplusW = 0 := le_antisymm (not_lt.mp hpos) (not_lt.mp hneg)
    have hadded : config.addedPct 0 = 0 := by
      have hdischarge := h.discharge_nonneg
      unfold BatteryProjectionConfig.addedPct
      rw [if_neg hpos, abs_zero, min_eq_left hdischarge]
      ring
    rw [hadded, add_zero, min_eq_right hsoc.2, max_eq_right hsoc.1]

/-- **The projection** is a stock between the reserve and full, changed by what the surpluses add. -/
theorem projectFrom_eq (h : ProperConfig config) {surplusW : Instant → ℚ} {socPct : ℚ} (hsoc : config.Allows socPct)
    (timestamps : List Instant) : projectFrom config surplusW socPct timestamps
      = timestamps.zip (levels config.reserveSocPct 100 socPct
          (timestamps.map fun ts => config.addedPct (surplusW ts))) := by
  induction timestamps generalizing socPct with
  | nil => rfl
  | cons ts rest ih =>
    have hnext : config.Allows (changed config.reserveSocPct 100 socPct (config.addedPct (surplusW ts))) :=
      changed_bounded (hsoc.1.trans hsoc.2) _ _
    rw [projectFrom, nextSocPct_eq h hsoc, ih hnext]
    rfl

/-! ### The projection is sound -/

/-- A state of charge that the configuration allows is where the projection begins. -/
theorem project_eq (h : ProperConfig config) {initialSocPct : ℚ} (hinitial : config.Allows initialSocPct)
    (timestamps : List Instant) (surplusWByTs : List (Instant × ℚ)) :
    project config timestamps initialSocPct surplusWByTs
      = timestamps.zip (levels config.reserveSocPct 100 initialSocPct
          (timestamps.map fun ts => config.addedPct ((lastAt surplusWByTs ts).getD 0))) := by
  unfold project
  rw [min_eq_right hinitial.2, max_eq_right hinitial.1]
  exact projectFrom_eq h hinitial timestamps

theorem ProperConfig.energyWh_le_iff (h : ProperConfig config) (pct wh : ℚ) :
    config.energyWh pct ≤ wh ↔ pct ≤ wh / (config.batteryCapacityKwh * 1000) * 100 := by
  have hcapacity := h.capacityWh_pos
  unfold BatteryProjectionConfig.energyWh
  rw [← le_div_iff₀ hcapacity, div_le_iff₀ (by norm_num)]

/-- The energy that a surplus adds is within the power limits. -/
theorem ProperConfig.energyWh_addedPct (h : ProperConfig config) (surplusW : ℚ) :
    config.energyWh (config.addedPct surplusW)
        ≤ config.maxChargePowerW * config.intervalHours * config.roundTripEfficiency
      ∧ config.energyWh (-config.addedPct surplusW)
        ≤ config.maxDischargePowerW * config.intervalHours / config.roundTripEfficiency := by
  have hcapacity := h.capacityWh_pos.ne'
  have hcharge := h.charge_nonneg
  have hdischarge := h.discharge_nonneg
  have hinterval := h.interval_nonneg
  have hefficiency := h.efficiency_pos
  have hmax := h.efficiency_max_pos
  have henergy : ∀ wh : ℚ, config.energyWh (wh / (config.batteryCapacityKwh * 1000) * 100) = wh := by
    intro wh
    unfold BatteryProjectionConfig.energyWh
    rw [mul_div_assoc, div_self (by norm_num), mul_one, div_mul_cancel₀ wh hcapacity]
  have hneg : ∀ pct : ℚ, config.energyWh (-pct) = -config.energyWh pct := by
    intro pct
    unfold BatteryProjectionConfig.energyWh
    ring
  rw [hneg]
  unfold BatteryProjectionConfig.addedPct
  split_ifs with hpos
  · rw [henergy]
    constructor
    · gcongr
      exact min_le_right _ _
    · have hlow : -(min surplusW config.maxChargePowerW * config.intervalHours * config.roundTripEfficiency) ≤ 0 := by
        rw [neg_nonpos]
        positivity
      exact hlow.trans (by positivity)
  · rw [henergy, neg_neg]
    constructor
    · have hlow : -(min |surplusW| config.maxDischargePowerW * config.intervalHours
          / max config.roundTripEfficiency (1 / 100)) ≤ 0 := by
        rw [neg_nonpos]
        positivity
      exact hlow.trans (by positivity)
    · gcongr
      · exact min_le_right _ _
      · exact le_max_left _ _

/-- More surplus at every instant changes the stock by more. -/
theorem ProperConfig.changes_mono (h : ProperConfig config) {surplusW surplusW' : Instant → ℚ}
    (hle : ∀ ts, surplusW ts ≤ surplusW' ts) (timestamps : List Instant) :
    List.Forall₂ (· ≤ ·) (timestamps.map fun ts => config.addedPct (surplusW ts))
      (timestamps.map fun ts => config.addedPct (surplusW' ts)) := by
  induction timestamps with
  | nil => exact List.Forall₂.nil
  | cons ts rest ih => exact List.Forall₂.cons (h.addedPct_mono (hle ts)) ih

theorem forall₂_zip {α β : Type*} {R : β → β → Prop} {keys : List α} {values values' : List β}
    (h : List.Forall₂ R values values') :
    List.Forall₂ (fun e e' => e.1 = e'.1 ∧ R e.2 e'.2) (keys.zip values) (keys.zip values') := by
  induction h generalizing keys with
  | nil =>
    rw [List.zip_nil_right]
    exact List.Forall₂.nil
  | cons hvalue _ ih =>
    cases keys with
    | nil => exact List.Forall₂.nil
    | cons key keys => exact List.Forall₂.cons ⟨rfl, hvalue⟩ ih

/-- **The projection of a battery.** With limits that are no powers below zero, every state of charge is between the
reserve and full, a higher state of charge at the beginning and more surplus at any time never make it lower, and from
one timestamp to the next it takes in and gives off no more energy than the power limits allow. -/
theorem project_sound (h : ProperConfig config) (timestamps : List Instant) {initialSocPct initialSocPct' : ℚ}
    (hinitial : config.Allows initialSocPct) (hinitial' : config.Allows initialSocPct')
    (hle : initialSocPct ≤ initialSocPct') {surplusWByTs surplusWByTs' : List (Instant × ℚ)}
    (hsurplus : ∀ ts, (lastAt surplusWByTs ts).getD 0 ≤ (lastAt surplusWByTs' ts).getD 0) :
    (∀ e ∈ project config timestamps initialSocPct surplusWByTs, config.Allows e.2)
      ∧ List.Forall₂ (fun e e' => e.1 = e'.1 ∧ e.2 ≤ e'.2) (project config timestamps initialSocPct surplusWByTs)
          (project config timestamps initialSocPct' surplusWByTs')
      ∧ (project config timestamps initialSocPct surplusWByTs).IsChain fun e e' =>
          config.energyWh (e'.2 - e.2)
              ≤ config.maxChargePowerW * config.intervalHours * config.roundTripEfficiency
            ∧ config.energyWh (e.2 - e'.2)
              ≤ config.maxDischargePowerW * config.intervalHours / config.roundTripEfficiency := by
  rw [project_eq h hinitial, project_eq h hinitial']
  refine ⟨fun e he => ?_, forall₂_zip (levels_mono hle (h.changes_mono hsurplus timestamps)), ?_⟩
  · exact levels_bounded hinitial.1 hinitial.2 _ e.2 (List.of_mem_zip he).2
  · have hcharge := h.charge_nonneg
    have hdischarge := h.discharge_nonneg
    have hinterval := h.interval_nonneg
    have hefficiency := h.efficiency_pos
    have hcapacity := h.capacityWh_pos
    have hlength : (levels config.reserveSocPct 100 initialSocPct (timestamps.map fun ts =>
        config.addedPct ((lastAt surplusWByTs ts).getD 0))).length ≤ timestamps.length := by
      rw [length_levels, List.length_map]
    simp only [h.energyWh_le_iff]
    refine (List.isChain_map (R := fun l l' : ℚ => l' - l ≤ _ ∧ l - l' ≤ _) Prod.snd).mp ?_
    rw [List.map_snd_zip hlength]
    refine levels_isChain (by positivity) (by positivity) hinitial.1 hinitial.2 fun change hchange => ?_
    obtain ⟨ts, -, rfl⟩ := List.mem_map.mp hchange
    obtain ⟨hup, hdown⟩ := h.energyWh_addedPct ((lastAt surplusWByTs ts).getD 0)
    exact ⟨(h.energyWh_le_iff _ _).mp hup, (h.energyWh_le_iff _ _).mp hdown⟩

/-- A sunny noon after a night, or after none. -/
theorem project_sound_noon :
    List.Forall₂ (fun e e' => e.1 = e'.1 ∧ e.2 ≤ e'.2) (project {} [0, 900, 1800] 40 [(0, -6000), (900, 8000)])
      (project {} [0, 900, 1800] 100 [(900, 8000)]) := by
  have hproper : ProperConfig {} := ⟨by norm_num, by norm_num, by norm_num, by norm_num, by norm_num, by norm_num⟩
  have hsurplus : ∀ ts : Instant,
      (lastAt [(0, -6000), (900, 8000)] ts).getD 0 ≤ (lastAt [(900, 8000)] ts).getD 0 := by
    intro ts
    by_cases hnight : (0 : Instant) = ts
    · subst hnight
      decide +kernel
    · by_cases hnoon : (900 : Instant) = ts <;> simp [lastAt, List.find?, hnight, hnoon]
  exact (project_sound hproper [0, 900, 1800] ⟨by norm_num, by norm_num⟩ ⟨by norm_num, le_rfl⟩ (by norm_num)
    hsurplus).2.1

namespace NegativeLimitDemo

/-- A charging power of less than nothing. -/
def charging : BatteryProjectionConfig := { maxChargePowerW := -1000 }

def discharging : BatteryProjectionConfig := { maxDischargePowerW := -1000 }

/-- Intervals that go back in time. -/
def backwards : BatteryProjectionConfig := { intervalHours := -1 / 4 }

/-- **A limit below zero** turns charging into discharging, which only full stops, and the other way round: the battery
leaves its bounds. -/
theorem leaves_bounds : (charging.Allows 25 ∧ ¬ ∀ e ∈ project charging [0, 900] 25 [(0, 500)], charging.Allows e.2)
      ∧ (discharging.Allows 100 ∧ ¬ ∀ e ∈ project discharging [0, 900] 100 [(0, -500)], discharging.Allows e.2)
      ∧ (backwards.Allows 25 ∧ ¬ ∀ e ∈ project backwards [0, 900] 25 [(0, 500)], backwards.Allows e.2) := by
  unfold BatteryProjectionConfig.Allows
  decide +kernel

end NegativeLimitDemo

/-! ### Prices and the state of charge at the beginning -/

namespace HorizonInputs

/-- The same inputs with another solar forecast, or without one. -/
def withForecast (inputs : HorizonInputs) (forecast : Option (List SolarForecastPoint)) : HorizonInputs :=
  { inputs with solarForecast := forecast }

/-- The battery over the blocks of the horizon, from a state of charge on. -/
def socFrom (inputs : HorizonInputs) (now : Instant) (horizonHours : ℤ) (socPct : ℚ) : List (Instant × ℚ) :=
  let blocksData := inputs.blocksData now (now + horizonHours * 3600)
  project { batteryCapacityKwh := inputs.batteryCapacityKwh, intervalHours := 15 / 60 }
    (blocksData.map BlockData.timestamp) socPct (blocksData.map fun data => (data.timestamp, data.surplusW))

/-- The prices of a block and whether they are estimated. -/
def SamePrices (block block' : HorizonBlock) : Prop :=
  block.spotPriceEurKwh = block'.spotPriceEurKwh ∧ block.allInPriceEurKwh = block'.allInPriceEurKwh
    ∧ block.priceEstimated = block'.priceEstimated

/-- A block has the same prices without a solar forecast as with one that covers it. -/
def PricesForecastFree (inputs : HorizonInputs) (now : Instant) (horizonHours : ℤ) : Prop :=
  ∀ points, ∀ block ∈ build (inputs.withForecast none) now horizonHours,
    ∀ block' ∈ build (inputs.withForecast (some points)) now horizonHours,
      block'.timestamp = block.timestamp → SamePrices block block'

/-- The battery is projected from the state of charge that is given. -/
def ProjectsFromGiven (inputs : HorizonInputs) (now : Instant) (horizonHours : ℤ) : Prop :=
  ∀ forecast, ∀ socPct ∈ inputs.initialBatterySocPct,
    ∀ block ∈ build (inputs.withForecast forecast) now horizonHours,
      block.batterySocPct = lastAt ((inputs.withForecast forecast).socFrom now horizonHours socPct) block.timestamp

end HorizonInputs

open HorizonInputs

section

variable {inputs : HorizonInputs} {now : Instant} {horizonHours : ℤ}

/-- The prices of a block are those of a block of the sun or of the house. -/
theorem samePrices_of_mem_blocksData {stop : Instant} {data : BlockData} (hdata : data ∈ inputs.blocksData now stop)
    (hknown : (inputs.prices data.timestamp).1 = none → (inputs.prices data.timestamp).2 = none) :
    data.spot = (inputs.houseBlock data.timestamp).spot ∧ data.allIn = (inputs.houseBlock data.timestamp).allIn
      ∧ data.priceEstimated = (inputs.houseBlock data.timestamp).priceEstimated := by
  unfold HorizonInputs.blocksData at hdata
  dsimp only at hdata
  split_ifs at hdata
  · obtain ⟨ts, -, rfl⟩ := List.mem_map.mp hdata
    exact ⟨rfl, rfl, rfl⟩
  · obtain ⟨point, -, rfl⟩ := List.mem_map.mp hdata
    have hknown : (inputs.prices point.timestamp).1 = none → (inputs.prices point.timestamp).2 = none := hknown
    unfold HorizonInputs.solarBlock HorizonInputs.houseBlock
    dsimp only
    cases hspot : (inputs.prices point.timestamp).1 with
    | none =>
      rw [hknown hspot]
      exact ⟨rfl, rfl, rfl⟩
    | some spot => exact ⟨rfl, rfl, rfl⟩

/-- **The prices do not depend on the forecast** exactly if a price with everything is never known without the spot
price. -/
theorem pricesForecastFree_iff : inputs.PricesForecastFree now horizonHours ↔
      ∀ load ∈ inputs.houseLoad, now ≤ load.timestamp → load.timestamp < now + horizonHours * 3600 →
        (inputs.prices load.timestamp).1 = none → (inputs.prices load.timestamp).2 = none := by
  constructor
  · intro hfree load hload hnow hstop hspot
    by_contra hknown
    have hin : load.timestamp ∈ (inputs.houseLoad.map HourlyLoadForecast.timestamp).filter
        fun ts => decide (now ≤ ts ∧ ts < now + horizonHours * 3600) :=
      List.mem_filter.mpr ⟨List.mem_map_of_mem hload, decide_eq_true ⟨hnow, hstop⟩⟩
    have hpoint : ({ timestamp := load.timestamp, correctedPowerW := 0, confidence := 0 } : SolarForecastPoint)
        ∈ [({ timestamp := load.timestamp, correctedPowerW := 0, confidence := 0 } : SolarForecastPoint)].filter
          fun p => decide (now ≤ p.timestamp ∧ p.timestamp < now + horizonHours * 3600) :=
      List.mem_filter.mpr ⟨List.mem_cons_self, decide_eq_true ⟨hnow, hstop⟩⟩
    have hsame := hfree [{ timestamp := load.timestamp, correctedPowerW := 0, confidence := 0 }] _
      (List.mem_map_of_mem (List.mem_map_of_mem hin)) _ (List.mem_map_of_mem (List.mem_map_of_mem hpoint)) rfl
    have hspots : (inputs.houseBlock load.timestamp).spot = (inputs.prices load.timestamp).1 := by
      refine hsame.1.trans ?_
      show (if ((inputs.prices load.timestamp).1.isNone && (inputs.prices load.timestamp).2.isNone) = true
        then some inputs.fallbackPriceEurKwh else (inputs.prices load.timestamp).1) = _
      rw [if_neg (by simp [hknown])]
    rw [hspot] at hspots
    unfold HorizonInputs.houseBlock at hspots
    dsimp only at hspots
    rw [hspot] at hspots
    cases hspots
  · intro hknown points block hblock block' hblock' hts
    obtain ⟨data, hdata, rfl⟩ := List.mem_map.mp hblock
    obtain ⟨data', hdata', rfl⟩ := List.mem_map.mp hblock'
    have hts : data'.timestamp = data.timestamp := hts
    obtain ⟨ts, hin, rfl⟩ := List.mem_map.mp hdata
    obtain ⟨hload, hwindow⟩ := List.mem_filter.mp hin
    obtain ⟨load, hmem, rfl⟩ := List.mem_map.mp hload
    obtain ⟨hnow, hstop⟩ := of_decide_eq_true hwindow
    have hts : data'.timestamp = load.timestamp := hts
    have hboth := samePrices_of_mem_blocksData hdata' (by rw [hts]; exact hknown load hmem hnow hstop)
    rw [hts] at hboth
    exact ⟨hboth.1.symm, hboth.2.1.symm, hboth.2.2.symm⟩

/-- The battery is projected from the state of charge that is given, where nothing and empty count as half full. -/
theorem batterySocPct_build : ∀ block ∈ build inputs now horizonHours, block.batterySocPct
      = lastAt (inputs.socFrom now horizonHours ((orNonzero inputs.initialBatterySocPct (some 50)).getD 50))
          block.timestamp := by
  intro block hblock
  obtain ⟨data, -, rfl⟩ := List.mem_map.mp hblock
  rfl

/-- The blocks lie between now and the end of the horizon. -/
theorem timestamp_build : ∀ block ∈ build inputs now horizonHours,
      now ≤ block.timestamp ∧ block.timestamp < now + horizonHours * 3600 := by
  intro block hblock
  obtain ⟨data, hdata, rfl⟩ := List.mem_map.mp hblock
  unfold HorizonInputs.blocksData at hdata
  dsimp only at hdata
  split_ifs at hdata
  · obtain ⟨ts, hts, rfl⟩ := List.mem_map.mp hdata
    exact of_decide_eq_true (List.mem_filter.mp hts).2
  · obtain ⟨point, hpoint, rfl⟩ := List.mem_map.mp hdata
    exact of_decide_eq_true (List.mem_filter.mp hpoint).2

/-- A point at which the sun gives just what the house and the loads before take. -/
def HorizonInputs.balancedPoint (inputs : HorizonInputs) (now : Instant) : SolarForecastPoint :=
  { timestamp := now, correctedPowerW := inputs.houseW now + inputs.higherPriorityLoadsW, confidence := 0 }

theorem blocksData_balancedPoint {stop : Instant} (hstop : now < stop) :
    (inputs.withForecast (some [inputs.balancedPoint now])).blocksData now stop
      = [inputs.solarBlock (inputs.balancedPoint now)] := by
  have hin : now ≤ (inputs.balancedPoint now).timestamp ∧ (inputs.balancedPoint now).timestamp < stop :=
    ⟨le_rfl, hstop⟩
  have hkept : [inputs.balancedPoint now].filter (fun p => decide (now ≤ p.timestamp ∧ p.timestamp < stop))
      = [inputs.balancedPoint now] := by
    refine List.filter_eq_self.mpr fun p hp => ?_
    obtain rfl := List.mem_singleton.mp hp
    exact decide_eq_true hin
  show ([inputs.balancedPoint now].filter _).map _ = _
  rw [hkept]
  rfl

/-- **The battery is projected from what is given** exactly if that is not empty, or there are no blocks. -/
theorem projectsFromGiven_iff :
    inputs.ProjectsFromGiven now horizonHours ↔ (inputs.initialBatterySocPct = some 0 → horizonHours ≤ 0) := by
  constructor
  · intro hgiven hempty
    by_contra hhours
    have hstop : now < now + horizonHours * 3600 := by
      have hpos : (0 : ℚ) < horizonHours := by exact_mod_cast not_le.mp hhours
      linarith
    have hdata : (inputs.withForecast (some [inputs.balancedPoint now])).blocksData now (now + horizonHours * 3600)
        = [inputs.solarBlock (inputs.balancedPoint now)] := blocksData_balancedPoint hstop
    have hsocs : ∀ socPct, lastAt
        ((inputs.withForecast (some [inputs.balancedPoint now])).socFrom now horizonHours socPct) now
          = some (max 25 (min 100 socPct)) := by
      intro socPct
      unfold socFrom
      rw [hdata]
      simp [project, projectFrom, lastAt, solarBlock, balancedPoint]
    obtain ⟨block, hblock⟩ : ∃ block,
        build (inputs.withForecast (some [inputs.balancedPoint now])) now horizonHours = [block]
          ∧ block.timestamp = now := by
      unfold build
      rw [hdata]
      exact ⟨_, rfl, rfl⟩
    have hmem : block ∈ build (inputs.withForecast (some [inputs.balancedPoint now])) now horizonHours := by
      rw [hblock.1]
      exact List.mem_cons_self
    have hzero := hgiven (some [inputs.balancedPoint now]) 0 hempty block hmem
    have hhalf : (orNonzero (some 0) (some 50)).getD 50 = 50 := rfl
    have hfifty := batterySocPct_build block hmem
    rw [show (inputs.withForecast (some [inputs.balancedPoint now])).initialBatterySocPct = some 0 from hempty,
      hhalf, hblock.2, hsocs] at hfifty
    rw [hblock.2, hsocs, hfifty] at hzero
    norm_num at hzero
  · intro hempty forecast socPct hsoc block hblock
    have hfrom := batterySocPct_build block hblock
    by_cases hne : socPct = 0
    · subst hne
      have hhours : (horizonHours : ℚ) ≤ 0 := by exact_mod_cast hempty hsoc
      obtain ⟨hnow, hstop⟩ := timestamp_build block hblock
      linarith
    · rw [show (inputs.withForecast forecast).initialBatterySocPct = some socPct from hsoc, orNonzero,
        if_neg hne] at hfrom
      exact hfrom

/-- **Prices and projection.** The prices of a block do not depend on whether a solar forecast covers it, and the
battery is projected from the state of charge that is given, exactly if for no hour of the house loads the price with
everything is known without the spot price, and the battery is not given as empty, unless there are no blocks. -/
theorem forecastFree_iff (inputs : HorizonInputs) (now : Instant) (horizonHours : ℤ) :
    inputs.PricesForecastFree now horizonHours ∧ inputs.ProjectsFromGiven now horizonHours ↔
      (∀ load ∈ inputs.houseLoad, now ≤ load.timestamp → load.timestamp < now + horizonHours * 3600 →
        (inputs.prices load.timestamp).1 = none → (inputs.prices load.timestamp).2 = none)
      ∧ (inputs.initialBatterySocPct = some 0 → horizonHours ≤ 0) :=
  and_congr pricesForecastFree_iff projectsFromGiven_iff

end

namespace ForecastDemo

/-- An hour of which only the price with everything is known, and an empty battery. -/
def inputs : HorizonInputs :=
  { solarForecast := none, houseLoad := [{ timestamp := 0, expectedPowerW := 500 }]
    priceByHour := fun _ => some (none, some (1 / 5)), exportValueSekKwh := 1, fallbackPriceEurKwh := 1 / 10
    initialBatterySocPct := some 0 }

/-- The sun gives what the house takes. -/
def points : List SolarForecastPoint := [{ timestamp := 0, correctedPowerW := 500, confidence := 1 }]

/-- **The forecast decides over the prices**, and an empty battery counts as half full. -/
theorem forecast_matters : (build (inputs.withForecast none) 0 1).map HorizonBlock.spotPriceEurKwh = [some (1 / 10)]
      ∧ (build (inputs.withForecast (some points)) 0 1).map HorizonBlock.spotPriceEurKwh = [none]
      ∧ (build (inputs.withForecast (some points)) 0 1).map HorizonBlock.batterySocPct = [some 50]
      ∧ ¬ inputs.PricesForecastFree 0 1 ∧ ¬ inputs.ProjectsFromGiven 0 1 := by
  refine ⟨by decide +kernel, by decide +kernel, by decide +kernel, fun hfree => ?_, fun hgiven => ?_⟩
  · have hknown := pricesForecastFree_iff.mp hfree { timestamp := 0, expectedPowerW := 500 } List.mem_cons_self
      (by decide +kernel) (by decide +kernel) rfl
    cases hknown
  · have hhours := projectsFromGiven_iff.mp hgiven rfl
    exact absurd hhours (by decide)

end ForecastDemo

end EnergyCore.FlexibleLoads
