import EnergyCore.Charging.ChargingUrgency
import EnergyCore.Charging.ImportPriceSchedule
import EnergyCore.Charging.SmartChargingStateMachine

/-!
# The optimizer of the charging engine

`optimize_target` of `EvChargingOptimizer`: the current that a charger should draw, from the energy state, the prices
and the deadline. The optimizer remembers since when the export has been above or below its thresholds.

* `targetCurrentA_mem` — a target is zero or lies within the bounds of the configuration;
* `solarStart_delayed` — along a run, a start on the export comes after the export has lasted;
* `deadline_held` — a deadline that is at risk is not put off again.
-/

namespace EnergyCore.Charging

open StepRun

/-! ### The energy state and the configuration -/

/-- The fields of the energy state that the optimizer reads. -/
structure OptimizerEnergy where
  electricityPriceEurKwh : Option ℚ := none
  priceForecast : List (Instant × ℚ) := []
  importPriceSekKwh : Option ℚ := none
  importPriceForecast : List (Instant × ℚ) := []
  pvPowerW : Option ℚ := none
  gridImportW : Option ℚ := none
  gridExportW : Option ℚ := none
  homeConsumptionW : Option ℚ := none
  batteryPowerW : Option ℚ := none
  batteryChargePowerW : Option ℚ := none
  batteryDischargePowerW : Option ℚ := none
  batterySoc : Option ℚ := none
  heartbeatChargingMode : Option ChargingMode := none
  heartbeatSmartChargeActive : Bool := false
  evChargeFromGridRecommended : Bool := false
  departureTime : Option String := none
  vehicleRequiredEnergyKwh : Option ℚ := none
  stale : Bool := false
  deriving Repr, DecidableEq

/-- The fields of `ChargingConfig` that the optimizer reads. -/
structure OptimizerConfig extends UrgencyConfig where
  minCurrentA : ℚ := 6
  maxPowerW : Option ℚ := none
  expensivePriceEurKwh : ℚ := 35 / 100
  solarStartThresholdW : ℚ := 1000
  solarStopThresholdW : ℚ := 600
  solarStartDelaySeconds : ℚ := 15
  solarStopDelaySeconds : ℚ := 60
  batteryLowSocThreshold : ℚ := 20
  batteryChargePowerThresholdW : ℚ := 1500
  gridDeadbandW : ℚ := 300
  timezone : String := "Europe/Stockholm"
  deadlineAt : Option Instant := none
  departureTime : Option String := none
  deriving Repr, DecidableEq

/-- The arguments of `optimize_target`; of the solar plan, whether it is `solar_first`. -/
structure OptimizerCall where
  state : OptimizerEnergy
  config : OptimizerConfig
  chargingMode : Option ChargingMode
  overrideActive : Bool := false
  now : Instant
  solarFirst : Option Bool := none
  deriving Repr, DecidableEq

structure OptimizerTarget where
  targetCurrentA : ℚ
  reason : String
  deriving Repr, DecidableEq

structure SolarDelayState where
  exportAboveStartSince : Option Instant := none
  exportBelowStopSince : Option Instant := none
  deriving Repr, DecidableEq

namespace OptimizerConfig

variable (config : OptimizerConfig)

/-- `_max_current`. -/
def maxCurrent : ℚ := max 0 config.maxCurrentA

/-- `_clamp_current`. -/
def clampCurrent (current : ℚ) : ℚ :=
  if current ≤ 0 then 0
  else if min current config.maxCurrentA < config.minCurrentA then 0
  else min current config.maxCurrentA

/-- `power_to_current_a`, with the arguments that the optimizer gives it; `root3` is the value of `math.sqrt(3)`. -/
def powerToCurrentA (root3 powerW : ℚ) : ℚ :=
  if powerW ≤ 0 then 0
  else
    let powerW := (config.maxPowerW.map (min powerW)).getD powerW
    let denominator := if config.phases ≥ 3 then root3 * config.nominalVoltageV else config.nominalVoltageV
    if denominator ≤ 0 then 0
    else if powerW / denominator < config.minCurrentA then 0
    else min (powerW / denominator) config.maxCurrentA

end OptimizerConfig

namespace OptimizerEnergy

variable (state : OptimizerEnergy)

/-- `_effective_export_w`. -/
def effectiveExportW : ℚ :=
  match state.gridExportW with
  | some gridExportW => max 0 (max 0 gridExportW - state.batteryDischargePowerW.getD 0)
  | none =>
    let batteryCharge := state.batteryChargePowerW <|> state.batteryPowerW.map (max 0)
    max 0 (state.pvPowerW.getD 0 - state.homeConsumptionW.getD 0 - batteryCharge.getD 0)

/-- `_battery_blocks_ev`. -/
def batteryBlocksEv (config : OptimizerConfig) : Bool :=
  match state.batterySoc, state.batteryPowerW with
  | some soc, some power =>
    decide (soc < config.batteryLowSocThreshold) && decide (power > config.batteryChargePowerThresholdW)
  | _, _ => false

/-- `_state_has_import_prices`. -/
def hasImportPrices : Bool := state.importPriceSekKwh.isSome && decide (4 ≤ state.importPriceForecast.length)

end OptimizerEnergy

/-- `uses_price_optimization`. -/
def usesPriceOptimization (chargingMode : Option ChargingMode) (overrideActive : Bool) : Bool :=
  if overrideActive || decide (normalizedMode chargingMode ∈ quickModes) then false
  else decide (normalizedMode chargingMode ∈ smartModes ++ priceModes)

/-- `price_allows_immediate_grid_charge`. -/
def priceAllowsImmediateGridCharge (currentPrice : Option ℚ) (priceForecast : List (Instant × ℚ))
    (expensiveThreshold : ℚ) (now : Instant) : Bool :=
  if currentPrice.any fun price => decide (price ≤ expensiveThreshold) then true
  else
    match currentPrice with
    | none => false
    | some currentPrice =>
      if priceForecast = [] then false
      else
        (averagePrice (hourlySlots priceForecast (now - 3600) (now + 86400))).any fun average =>
          isGreenPrice currentPrice average

namespace OptimizerCall

variable {Local : Type} (times : LocalTimes Local) (root3 : ℚ) (c : OptimizerCall)

def mode : ChargingMode := normalizedMode (c.chargingMode <|> c.state.heartbeatChargingMode)

def exportW : ℚ := c.state.effectiveExportW

def importsGrid : Bool := c.state.gridImportW.any fun gridImportW => decide (gridImportW > c.config.gridDeadbandW)

/-- The current that the export allows. -/
def solarCurrent : ℚ := c.config.clampCurrent (c.config.powerToCurrentA root3 c.exportW)

/-- `config.departure_time or state.departure_time`, where an empty text is none. -/
def departureTime : Option String :=
  c.config.departureTime.filter (· ≠ "") <|> c.state.departureTime.filter (· ≠ "")

/-- `config.deadline_at`, or `_deadline_from_departure`. -/
def deadline : Option Instant :=
  c.config.deadlineAt <|> c.departureTime.bind fun time => nextDeparture times c.now time c.config.timezone

def urgency : ℚ :=
  combinedChargingUrgency root3 c.now (c.deadline times) c.config.toUrgencyConfig c.state.vehicleRequiredEnergyKwh

/-- The call of `should_charge_import_price`. -/
def importCall (urgency : ℚ) : ImportPriceCall where
  now := c.now
  currentPeriodStart := some (alignPeriodStart c.now)
  currentImportSekKwh := c.state.importPriceSekKwh
  importForecast := c.state.importPriceForecast
  urgency := urgency

/-- The call of `should_charge_smart`. -/
def scheduleCall (urgency : ℚ) : ScheduleCall where
  now := c.now
  departureTime := c.departureTime
  priceForecast := c.state.priceForecast
  currentPrice := c.state.electricityPriceEurKwh
  expensiveThreshold := c.config.expensivePriceEurKwh
  chargeHours := c.config.smartChargeHours
  timezone := c.config.timezone
  scheduleMode :=
    if c.config.deadlineAt.isSome then .deadline else if c.departureTime.isSome then .departure else .none
  urgency := urgency

/-- The call that `should_charge_by_price` makes. -/
def byPriceCall : ScheduleCall where
  now := c.now
  departureTime := none
  priceForecast := c.state.priceForecast
  currentPrice := c.state.electricityPriceEurKwh
  expensiveThreshold := c.config.expensivePriceEurKwh
  chargeHours := c.config.smartChargeHours

/-- `_should_wait_for_solar_forecast`. -/
def shouldWaitForSolarForecast (urgency : ℚ) : Bool :=
  if c.solarFirst ≠ some true then false
  else if urgency ≥ 5 / 10 then false
  else if c.state.hasImportPrices then
    !(shouldChargeImportPrice { c.importCall 0 with currentPeriodStart := none }).1
  else
    !priceAllowsImmediateGridCharge c.state.electricityPriceEurKwh c.state.priceForecast
      c.config.expensivePriceEurKwh c.now

/-- A solar plan that needs the grid. -/
def gridNeeded : Bool := decide (c.solarFirst = some false)

/-- The full current with the reason of the prices, or nothing. -/
def chargeIf (decision : Bool × String) : OptimizerTarget :=
  ⟨if decision.1 then c.config.maxCurrent else 0, decision.2⟩

/-! ### The targets -/

/-- `_optimize_solar_target`. -/
def optimizeSolarTarget (s : SolarDelayState) : SolarDelayState × OptimizerTarget :=
  if c.importsGrid then ({}, ⟨0, "grid_import"⟩)
  else if c.exportW ≥ c.config.solarStartThresholdW then
    let since := s.exportAboveStartSince.getD c.now
    ({ exportAboveStartSince := some since },
      if c.now - since < c.config.solarStartDelaySeconds then ⟨0, "solar_start_delay"⟩
      else if c.solarCurrent root3 ≤ 0 then ⟨0, "insufficient_export"⟩
      else ⟨c.solarCurrent root3, "stable_grid_export"⟩)
  else if c.exportW ≤ c.config.solarStopThresholdW then
    let since := s.exportBelowStopSince.getD c.now
    if c.now - since ≥ c.config.solarStopDelaySeconds then ({}, ⟨0, "insufficient_export"⟩)
    else ({ exportBelowStopSince := some since }, ⟨0, "solar_stop_delay"⟩)
  else ({}, ⟨0, "export_hysteresis"⟩)

/-- `_optimize_price_target`. -/
def optimizePriceTarget : OptimizerTarget :=
  if c.state.batteryBlocksEv c.config then ⟨0, "battery_priority"⟩
  else if c.state.hasImportPrices then c.chargeIf (shouldChargeImportPrice (c.importCall 0))
  else c.chargeIf (shouldChargeSmart times c.byPriceCall)

/-- The end of `_optimize_smart_target`, where the spot prices decide. -/
def scheduleTarget (urgency : ℚ) : OptimizerTarget :=
  let decision := shouldChargeSmart times (c.scheduleCall urgency)
  if decision.1 then
    c.chargeIf (true, if c.gridNeeded && decide (decision.2 ∈ ["cheap_now", "smart_scheduled", "smart_green_price",
      "normal_price_ok", "smart_urgency_balanced"]) then "solar_forecast_partial_grid" else decision.2)
  else c.chargeIf (false, if c.gridNeeded then "solar_forecast_wait_cheaper" else decision.2)

/-- The prices of `_optimize_smart_target`: those of imports, or the spot prices. -/
def priceTarget (urgency : ℚ) : OptimizerTarget :=
  if c.state.hasImportPrices then
    let decision := shouldChargeImportPrice (c.importCall urgency)
    if decision.1 then
      c.chargeIf (true, if c.gridNeeded && decision.2.startsWith "import_" then "solar_forecast_partial_grid"
        else decision.2)
    else if urgency < 8 / 10 then
      c.chargeIf (false, if c.gridNeeded then "solar_forecast_wait_cheaper" else decision.2)
    else c.scheduleTarget times urgency
  else c.scheduleTarget times urgency

/-- `_optimize_smart_target`, with the urgency that it computes. -/
def smartTarget (urgency : ℚ) : OptimizerTarget :=
  if (c.deadline times).any fun deadline => decide (deadline ≤ c.now) then
    ⟨c.config.maxCurrent, "deadline_overdue"⟩
  else if urgency ≥ 8 / 10 then ⟨c.config.maxCurrent, "deadline_risk"⟩
  else if c.exportW ≥ c.config.solarStartThresholdW ∧ c.solarCurrent root3 > 0 then
    ⟨c.solarCurrent root3, "smart_solar_surplus"⟩
  else if c.shouldWaitForSolarForecast urgency then ⟨0, "solar_forecast_wait"⟩
  else c.priceTarget times urgency

def optimizeSmartTarget : OptimizerTarget := c.smartTarget times root3 (c.urgency times root3)

/-- `optimize_target`. -/
def optimizeTarget (s : SolarDelayState) : SolarDelayState × OptimizerTarget :=
  if c.state.stale then (s, ⟨0, "stale_data"⟩)
  else if respectsManualPause (some c.mode) c.overrideActive then (s, ⟨0, "user_paused"⟩)
  else if c.overrideActive then (s, ⟨c.config.maxCurrent, "override"⟩)
  else if c.mode ∈ quickModes then (s, ⟨c.config.maxCurrent, "quick_charge"⟩)
  else if c.state.batteryBlocksEv c.config then (s, ⟨0, "battery_priority"⟩)
  else if c.mode ∈ solarModes then c.optimizeSolarTarget root3 s
  else if c.mode ∈ priceModes then (s, c.optimizePriceTarget times)
  else if usesPriceOptimization (some c.mode) false || c.state.heartbeatSmartChargeActive then
    (s, c.optimizeSmartTarget times root3)
  else if c.state.evChargeFromGridRecommended && !c.state.hasImportPrices then
    (s, ⟨c.config.maxCurrent, "cheap_grid_charge"⟩)
  else (s, ⟨0, "no_signal"⟩)

/-! ### Bounds -/

variable {times root3 c}

theorem clampCurrent_mem (config : OptimizerConfig) (current : ℚ) : config.clampCurrent current = 0 ∨
    config.minCurrentA ≤ config.clampCurrent current ∧ config.clampCurrent current ≤ config.maxCurrentA := by
  unfold OptimizerConfig.clampCurrent
  split_ifs with hnone hlow
  · exact .inl rfl
  · exact .inl rfl
  · exact .inr ⟨not_lt.mp hlow, min_le_right _ _⟩

variable (root3 c) in
/-- A current that is asked for: none, all that is allowed, or what the export allows. -/
def Offers (current : ℚ) : Prop :=
  current = 0 ∨ current = c.config.maxCurrent ∨ current = c.solarCurrent root3

theorem offers_chargeIf (decision : Bool × String) : c.Offers root3 (c.chargeIf decision).targetCurrentA := by
  unfold chargeIf
  dsimp only
  split_ifs
  · exact .inr (.inl rfl)
  · exact .inl rfl

theorem offers_priceTarget (urgency : ℚ) : c.Offers root3 (c.priceTarget times urgency).targetCurrentA := by
  unfold priceTarget scheduleTarget
  dsimp only
  split_ifs <;> exact offers_chargeIf _

theorem offers_optimizePriceTarget : c.Offers root3 (c.optimizePriceTarget times).targetCurrentA := by
  unfold optimizePriceTarget
  split_ifs
  · exact .inl rfl
  · exact offers_chargeIf _
  · exact offers_chargeIf _

theorem offers_smartTarget (urgency : ℚ) : c.Offers root3 (c.smartTarget times root3 urgency).targetCurrentA := by
  unfold smartTarget
  split_ifs
  · exact .inr (.inl rfl)
  · exact .inr (.inl rfl)
  · exact .inr (.inr rfl)
  · exact .inl rfl
  · exact offers_priceTarget _

theorem offers_optimizeSolarTarget (s : SolarDelayState) :
    c.Offers root3 (c.optimizeSolarTarget root3 s).2.targetCurrentA := by
  unfold optimizeSolarTarget
  dsimp only
  split_ifs <;> first | exact .inl rfl | exact .inr (.inr rfl)

theorem offers_optimizeTarget (s : SolarDelayState) :
    c.Offers root3 (c.optimizeTarget times root3 s).2.targetCurrentA := by
  unfold optimizeTarget
  split_ifs <;> first
    | exact .inl rfl
    | exact .inr (.inl rfl)
    | exact offers_optimizeSolarTarget s
    | exact offers_optimizePriceTarget
    | exact offers_smartTarget _

/-- **The bounds of the configuration** hold for every target: it is zero, or a current that the charger may draw. -/
theorem targetCurrentA_mem (s : SolarDelayState) (hmin : 0 ≤ c.config.minCurrentA)
    (hmax : c.config.minCurrentA ≤ c.config.maxCurrentA) : (c.optimizeTarget times root3 s).2.targetCurrentA = 0 ∨
      (c.optimizeTarget times root3 s).2.targetCurrentA ∈ Set.Icc c.config.minCurrentA c.config.maxCurrentA := by
  have hfull : c.config.maxCurrent = c.config.maxCurrentA := max_eq_right (hmin.trans hmax)
  rcases offers_optimizeTarget s with hzero | hmost | hsolar
  · exact .inl hzero
  · rw [hmost, hfull]
    exact .inr ⟨hmax, le_refl _⟩
  · rw [hsolar]
    exact clampCurrent_mem c.config _

/-- Clocks that know no time of a departure. -/
def noTimes : LocalTimes Unit := ⟨fun _ => none, fun _ => none⟩

/-- A call in the solar mode, with an export of 5 kW. -/
def sunnyCall (now : Instant) : OptimizerCall :=
  { state := { gridExportW := some 5000 }, config := {}, chargingMode := some .solar, now := now }

theorem targetCurrentA_mem_sunny : ((sunnyCall 0).optimizeTarget noTimes (173 / 100) {}).2.targetCurrentA = 0 ∨
    ((sunnyCall 0).optimizeTarget noTimes (173 / 100) {}).2.targetCurrentA ∈ Set.Icc 6 16 :=
  targetCurrentA_mem {} (by decide +kernel) (by decide +kernel)

/-! ### The start on the export -/

variable (c) in
/-- The call comes to `_optimize_solar_target`. -/
def RunsSolar : Prop :=
  c.state.stale = false ∧ c.overrideActive = false ∧ c.state.batteryBlocksEv c.config = false ∧ c.mode ∈ solarModes

variable (c) in
/-- The export is above the threshold for a start, and nothing is imported. -/
def Surplus : Prop :=
  c.importsGrid = false ∧ c.config.solarStartThresholdW ≤ c.exportW

instance : Decidable c.Surplus := inferInstanceAs (Decidable (_ ∧ _))

variable (times root3) in
/-- What a call leaves of the delays. -/
def delayStep (s : SolarDelayState) (c : OptimizerCall) : SolarDelayState := (c.optimizeTarget times root3 s).1

theorem optimizeTarget_of_runsSolar (h : c.RunsSolar) (s : SolarDelayState) :
    c.optimizeTarget times root3 s = c.optimizeSolarTarget root3 s := by
  obtain ⟨hstale, hoverride, hbattery, hmode⟩ := h
  have hother : c.mode ≠ .paused ∧ c.mode ∉ quickModes := by
    rcases List.mem_cons.mp hmode with hmode | hmode
    · rw [hmode]
      decide
    · rw [List.mem_singleton.mp hmode]
      decide
  unfold optimizeTarget respectsManualPause
  rw [normalizedMode_some]
  simp [hstale, hoverride, hbattery, hmode, hother]

/-- A call that does not come there leaves the delays alone. -/
theorem delayStep_of_not_runsSolar (h : ¬ c.RunsSolar) (s : SolarDelayState) : delayStep times root3 s c = s := by
  unfold delayStep optimizeTarget
  split_ifs with hstale hpaused hoverride hquick hbattery hsolar <;> first | rfl | skip
  rw [Bool.not_eq_true] at hstale hoverride hbattery
  exact absurd ⟨hstale, hoverride, hbattery, hsolar⟩ h

/-- A solar call keeps the time since when there has been a surplus, if there is one. -/
theorem exportAboveStartSince_optimizeSolarTarget (s : SolarDelayState) :
    (c.optimizeSolarTarget root3 s).1.exportAboveStartSince =
      if c.Surplus then some (s.exportAboveStartSince.getD c.now) else none := by
  unfold optimizeSolarTarget
  dsimp only
  by_cases himport : c.importsGrid = true
  · rw [if_pos himport, if_neg fun h : c.Surplus => Bool.false_ne_true (h.1.symm.trans himport)]
  · by_cases hexport : c.exportW ≥ c.config.solarStartThresholdW
    · have hsurplus : c.Surplus := ⟨eq_false_of_ne_true himport, hexport⟩
      rw [if_neg himport, if_pos hexport, if_pos hsurplus]
    · rw [if_neg himport, if_neg hexport, if_neg fun h : c.Surplus => hexport h.2]
      split_ifs <;> rfl

/-- The calls from the time `t` on that came to `_optimize_solar_target` have all found a surplus. -/
def SurplusSince (calls : List OptimizerCall) (t : Instant) : Prop :=
  ∃ before first after, calls = before ++ first :: after ∧ first.now = t ∧ first.RunsSolar ∧ first.Surplus ∧
    ∀ d ∈ after, d.RunsSolar → d.Surplus

theorem SurplusSince.concat {calls : List OptimizerCall} {t : Instant} (h : SurplusSince calls t)
    (hc : c.RunsSolar → c.Surplus) : SurplusSince (calls ++ [c]) t := by
  obtain ⟨before, first, after, hcalls, hnow, hruns, hsurplus, hafter⟩ := h
  refine ⟨before, first, after ++ [c], by simp [hcalls], hnow, hruns, hsurplus, fun d hd => ?_⟩
  rcases List.mem_append.mp hd with hd | hd
  · exact hafter d hd
  · rw [List.mem_singleton.mp hd]
    exact hc

theorem surplusSince_getD {calls : List OptimizerCall} {since : Option Instant} (hruns : c.RunsSolar)
    (hsurplus : c.Surplus) (h : ∀ t ∈ since, SurplusSince calls t) :
    SurplusSince (calls ++ [c]) (since.getD c.now) := by
  cases since with
  | none => exact ⟨calls, c, [], rfl, rfl, hruns, hsurplus, fun d hd => absurd hd List.not_mem_nil⟩
  | some t => exact (h t rfl).concat fun _ => hsurplus

/-- **The remembered time** is that of a call from which on there has been a surplus. -/
theorem surplusSince_run (calls : List OptimizerCall) :
    ∀ t ∈ (run (delayStep times root3) {} calls).exportAboveStartSince, SurplusSince calls t := by
  induction calls using List.reverseRecOn with
  | nil => intro t ht; cases ht
  | append_singleton calls c ih =>
    intro t ht
    rw [run_append, run_cons, run_nil] at ht
    by_cases hruns : c.RunsSolar
    · rw [delayStep, optimizeTarget_of_runsSolar hruns, exportAboveStartSince_optimizeSolarTarget] at ht
      split_ifs at ht with hsurplus
      · rw [← Option.some.inj ht]
        exact surplusSince_getD hruns hsurplus ih
      · cases ht
    · rw [delayStep_of_not_runsSolar hruns] at ht
      exact (ih t ht).concat fun h => absurd h hruns

/-- **A start on the export is delayed.** Along any run of calls, of any chargers in any modes, a solar call asks for a
current only if there has been a surplus for the delay: at an earlier solar call, and at all those since then. -/
theorem solarStart_delayed (calls : List OptimizerCall) (hruns : c.RunsSolar)
    (hcharges : (c.optimizeTarget times root3 (run (delayStep times root3) {} calls)).2.targetCurrentA ≠ 0) :
    ∃ before first after, calls ++ [c] = before ++ first :: after ∧
      first.now + c.config.solarStartDelaySeconds ≤ c.now ∧ first.RunsSolar ∧ first.Surplus ∧
      ∀ d ∈ after, d.RunsSolar → d.Surplus := by
  have hinv := @surplusSince_run _ times root3 calls
  generalize run (delayStep times root3) {} calls = s at hinv hcharges
  rw [optimizeTarget_of_runsSolar hruns] at hcharges
  unfold optimizeSolarTarget at hcharges
  dsimp only at hcharges
  split_ifs at hcharges with himport hexport hdelay hnone hstop hlong <;> try exact absurd rfl hcharges
  obtain ⟨before, first, after, hcalls, hnow, hsince⟩ :=
    surplusSince_getD hruns ⟨eq_false_of_ne_true himport, hexport⟩ hinv
  exact ⟨before, first, after, hcalls, by linarith, hsince⟩

theorem solarStart_delayed_sunny : ∃ before first after, [sunnyCall 0] ++ [sunnyCall 20] = before ++ first :: after ∧
    first.now + 15 ≤ 20 ∧ first.RunsSolar ∧ first.Surplus ∧ ∀ d ∈ after, d.RunsSolar → d.Surplus :=
  solarStart_delayed [sunnyCall 0] ⟨rfl, rfl, rfl, by decide⟩
    (by decide +kernel : ((sunnyCall 20).optimizeTarget noTimes (173 / 100)
      (run (delayStep noTimes (173 / 100)) {} [sunnyCall 0])).2.targetCurrentA ≠ 0)

/-! ### The deadline -/

variable (c) in
/-- The call comes to `_optimize_smart_target`. -/
def RunsSmart : Prop :=
  c.state.stale = false ∧ c.overrideActive = false ∧ c.state.batteryBlocksEv c.config = false ∧
    c.mode ∉ .paused :: quickModes ++ solarModes ++ priceModes ∧
    (c.mode ∈ smartModes ∨ c.state.heartbeatSmartChargeActive = true)

theorem optimizeTarget_of_runsSmart (h : c.RunsSmart) (s : SolarDelayState) :
    c.optimizeTarget times root3 s = (s, c.optimizeSmartTarget times root3) := by
  obtain ⟨hstale, hoverride, hbattery, hmode, hsmart⟩ := h
  simp only [List.cons_append, List.mem_cons, List.mem_append, not_or] at hmode
  obtain ⟨hpaused, ⟨hquick, hsolar⟩, hprice⟩ := hmode
  have hactive : (usesPriceOptimization (some c.mode) false || c.state.heartbeatSmartChargeActive) = true := by
    unfold usesPriceOptimization
    rcases hsmart with hsmart | hsmart <;> simp [hquick, hsmart]
  unfold optimizeTarget respectsManualPause
  simp [hstale, hoverride, hbattery, hpaused, hquick, hsolar, hprice, hactive]

/-- A call in a smart mode with four hours left, at a high price, and with the sun still to come. -/
def riskyCall (now requiredEnergyKwh : ℚ) : OptimizerCall :=
  { state :=
      { importPriceSekKwh := some (3 / 2), importPriceForecast := [(0, 3 / 2), (900, 1), (1800, 1), (2700, 1)]
        vehicleRequiredEnergyKwh := some requiredEnergyKwh }
    config := { deadlineAt := some 14400 }, chargingMode := some .smart, now := now, solarFirst := some true }

theorem runsSmart_riskyCall (now requiredEnergyKwh : ℚ) : (riskyCall now requiredEnergyKwh).RunsSmart :=
  ⟨rfl, rfl, rfl, by show ChargingMode.smart ∉ _; decide, .inl (by show ChargingMode.smart ∈ _; decide)⟩

/-- **A deadline at risk** is not put off: from then on, every call in a smart mode asks for all that is allowed,
whatever has become of the prices and the sun, as long as the deadline stands and no less energy is needed. -/
theorem deadline_held {c' : OptimizerCall} (s : SolarDelayState) (hsmart : c'.RunsSmart) (hconfig : c'.config = c.config)
    {deadline : Instant} (hdeadline : c.config.deadlineAt = some deadline) (hnow : c.now ≤ c'.now)
    (hneed : ∀ e ∈ c.state.vehicleRequiredEnergyKwh, ∃ e' ∈ c'.state.vehicleRequiredEnergyKwh, e ≤ e')
    (hrisk : 8 / 10 ≤ c.urgency times root3) :
    (c'.optimizeTarget times root3 s).2.targetCurrentA = c.config.maxCurrent := by
  have hsame : ∀ d : OptimizerCall, d.config.deadlineAt = some deadline → d.deadline times = some deadline := by
    intro d hd
    rw [OptimizerCall.deadline, hd]
    rfl
  have hrisk' : 8 / 10 ≤ c'.urgency times root3 := by
    refine hrisk.trans ?_
    have htime := chargingUrgency_monotone c.config.toUrgencyConfig (some deadline) hnow
    unfold urgency
    rw [hsame c hdeadline, hsame c' (hconfig ▸ hdeadline), hconfig]
    cases hrequired : c.state.vehicleRequiredEnergyKwh with
    | none =>
      rw [combined_none]
      refine htime.trans ?_
      cases c'.state.vehicleRequiredEnergyKwh with
      | none => rw [combined_none]
      | some e' =>
        rw [combined_some]
        exact le_max_left _ _
    | some e =>
      obtain ⟨e', he', hle⟩ := hneed e hrequired
      rw [Option.mem_def.mp he', combined_some, combined_some]
      exact max_le_max htime ((energyPart_monotone_now root3 _ _ _ hnow).trans
        (energyPart_monotone_required root3 _ _ _ hle))
  rw [optimizeTarget_of_runsSmart hsmart, ← hconfig]
  unfold optimizeSmartTarget smartTarget
  split_ifs
  · rfl
  · rfl

theorem deadline_held_risky : ((riskyCall 600 10).optimizeTarget noTimes (173 / 100) {}).2.targetCurrentA =
    (riskyCall 0 10).config.maxCurrent :=
  @deadline_held Unit noTimes (173 / 100) (riskyCall 0 10) (riskyCall 600 10) {} (runsSmart_riskyCall 600 10) rfl 14400
    rfl (by show (0 : ℚ) ≤ 600; norm_num) (fun e he => ⟨e, he, le_refl e⟩) (by decide +kernel)

end OptimizerCall

end EnergyCore.Charging
