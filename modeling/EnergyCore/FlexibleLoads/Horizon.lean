import EnergyCore.FlexibleLoads.LoadTypes
import Mathlib.Tactic.Ring

/-!
# The horizon

The blocks that loads are planned on, from the forecasts, the prices and the projected battery.

* `deducted_build` — the surplus of a block is what the house and the loads before it leave of the sun.
-/

namespace EnergyCore.FlexibleLoads

/-- The value that was stored last under a timestamp. -/
def lastAt (entries : List (Instant × ℚ)) (ts : Instant) : Option ℚ :=
  (entries.reverse.find? fun entry => decide (entry.1 = ts)).map Prod.snd

/-! ### The battery -/

structure BatteryProjectionConfig where
  reserveSocPct : ℚ := 25
  maxChargePowerW : ℚ := 5000
  maxDischargePowerW : ℚ := 5000
  batteryCapacityKwh : ℚ := 10
  intervalHours : ℚ := 1 / 4
  roundTripEfficiency : ℚ := 92 / 100
  deriving Repr, DecidableEq

/-- The state of charge after a block with a surplus. -/
def nextSocPct (config : BatteryProjectionConfig) (socPct surplusW : ℚ) : ℚ :=
  let capacityWh := config.batteryCapacityKwh * 1000
  if surplusW > 0 then
    let deltaWh := min surplusW config.maxChargePowerW * config.intervalHours * config.roundTripEfficiency
    min 100 (socPct + deltaWh / capacityWh * 100)
  else if surplusW < 0 then
    let deltaWh :=
      min |surplusW| config.maxDischargePowerW * config.intervalHours / max config.roundTripEfficiency (1 / 100)
    max config.reserveSocPct (socPct - deltaWh / capacityWh * 100)
  else socPct

/-- The state of charge at each timestamp. -/
def projectFrom (config : BatteryProjectionConfig) (surplusW : Instant → ℚ) :
    ℚ → List Instant → List (Instant × ℚ)
  | _, [] => []
  | socPct, ts :: rest => (ts, socPct) :: projectFrom config surplusW (nextSocPct config socPct (surplusW ts)) rest

def project (config : BatteryProjectionConfig) (timestamps : List Instant) (initialSocPct : ℚ)
    (surplusWByTs : List (Instant × ℚ)) : List (Instant × ℚ) :=
  projectFrom config (fun ts => (lastAt surplusWByTs ts).getD 0) (max config.reserveSocPct (min 100 initialSocPct))
    timestamps

/-! ### The builder -/

structure SolarForecastPoint where
  timestamp : Instant
  correctedPowerW : ℚ
  confidence : ℚ
  deriving Repr, DecidableEq

structure HourlyLoadForecast where
  timestamp : Instant
  expectedPowerW : ℚ
  deriving Repr, DecidableEq

structure HorizonInputs where
  solarForecast : Option (List SolarForecastPoint)
  houseLoad : List HourlyLoadForecast
  priceByHour : Instant → Option (Option ℚ × Option ℚ)
  exportValueSekKwh : ℚ
  fallbackPriceEurKwh : ℚ
  initialBatterySocPct : Option ℚ
  higherPriorityLoadsW : ℚ := 0
  batteryCapacityKwh : ℚ := 10

/-- What is known of a block before the battery is projected. -/
structure BlockData where
  timestamp : Instant
  solarW : ℚ
  houseW : ℚ
  surplusW : ℚ
  spot : Option ℚ
  allIn : Option ℚ
  priceEstimated : Bool
  confidence : ℚ

namespace HorizonInputs

def houseW (inputs : HorizonInputs) (ts : Instant) : ℚ :=
  (lastAt (inputs.houseLoad.map fun p => (p.timestamp, p.expectedPowerW)) ts).getD 500

/-- The spot price and the price with everything. -/
def prices (inputs : HorizonInputs) (ts : Instant) : Option ℚ × Option ℚ :=
  (inputs.priceByHour (hourStart ts)).getD (none, none)

def solarBlock (inputs : HorizonInputs) (point : SolarForecastPoint) : BlockData :=
  let prices := inputs.prices point.timestamp
  let missing := prices.1.isNone && prices.2.isNone
  { timestamp := point.timestamp
    solarW := point.correctedPowerW
    houseW := inputs.houseW point.timestamp
    surplusW := point.correctedPowerW - inputs.houseW point.timestamp - inputs.higherPriorityLoadsW
    spot := if missing then some inputs.fallbackPriceEurKwh else prices.1
    allIn := if missing then some inputs.fallbackPriceEurKwh else prices.2
    priceEstimated := missing
    confidence := point.confidence }

/-- A block without a solar forecast, where a missing spot price replaces both prices. -/
def houseBlock (inputs : HorizonInputs) (ts : Instant) : BlockData :=
  let prices := inputs.prices ts
  { timestamp := ts
    solarW := 0
    houseW := inputs.houseW ts
    surplusW := -inputs.houseW ts - inputs.higherPriorityLoadsW
    spot := if prices.1.isNone then some inputs.fallbackPriceEurKwh else prices.1
    allIn := if prices.1.isNone then some inputs.fallbackPriceEurKwh else prices.2
    priceEstimated := prices.1.isNone && prices.2.isNone
    confidence := 3 / 10 }

/-- The blocks from `now` to `stop`: those of the solar forecast if it has any points, else those of the house. -/
def blocksData (inputs : HorizonInputs) (now stop : Instant) : List BlockData :=
  let solarPoints := inputs.solarForecast.getD []
  if solarPoints.isEmpty then
    ((inputs.houseLoad.map HourlyLoadForecast.timestamp).filter fun ts => decide (now ≤ ts ∧ ts < stop)).map
      inputs.houseBlock
  else (solarPoints.filter fun p => decide (now ≤ p.timestamp ∧ p.timestamp < stop)).map inputs.solarBlock

end HorizonInputs

/-- `EnergyHorizonBuilder.build`. -/
def build (inputs : HorizonInputs) (now : Instant) (horizonHours : ℤ) : List HorizonBlock :=
  let blocksData := inputs.blocksData now (now + horizonHours * 3600)
  let socByTs := project { batteryCapacityKwh := inputs.batteryCapacityKwh, intervalHours := 15 / 60 }
    (blocksData.map BlockData.timestamp) ((orNonzero inputs.initialBatterySocPct (some 50)).getD 50)
    (blocksData.map fun data => (data.timestamp, data.surplusW))
  blocksData.map fun data =>
    { timestamp := data.timestamp
      solarForecastW := data.solarW
      houseLoadForecastW := data.houseW
      higherPriorityLoadsW := inputs.higherPriorityLoadsW
      availableSurplusW := max 0 data.surplusW
      batterySocPct := lastAt socByTs data.timestamp
      spotPriceEurKwh := data.spot
      allInPriceEurKwh := data.allIn
      exportValueSekKwh := inputs.exportValueSekKwh
      priceEstimated := data.priceEstimated
      forecastConfidence := data.confidence }

/-! ### Surpluses -/

/-- What the sun leaves over the house. -/
def HorizonBlock.rawSurplusW (block : HorizonBlock) : ℚ := block.solarForecastW - block.houseLoadForecastW

/-- The loads of higher priority are deducted from the surplus of every block. -/
def Deducted (horizon : List HorizonBlock) : Prop :=
  ∀ block ∈ horizon, block.availableSurplusW = max 0 (block.rawSurplusW - block.higherPriorityLoadsW)

theorem surplusW_blocksData {inputs : HorizonInputs} {now stop : Instant} :
    ∀ data ∈ inputs.blocksData now stop, data.surplusW = data.solarW - data.houseW - inputs.higherPriorityLoadsW := by
  intro data hdata
  unfold HorizonInputs.blocksData at hdata
  dsimp only at hdata
  split_ifs at hdata
  · obtain ⟨ts, -, rfl⟩ := List.mem_map.mp hdata
    show -inputs.houseW ts - inputs.higherPriorityLoadsW = 0 - inputs.houseW ts - inputs.higherPriorityLoadsW
    ring
  · obtain ⟨point, -, rfl⟩ := List.mem_map.mp hdata
    rfl

/-- **The horizon that is built** has the loads of higher priority deducted. -/
theorem deducted_build (inputs : HorizonInputs) (now : Instant) (horizonHours : ℤ) :
    Deducted (build inputs now horizonHours) := by
  intro block hblock
  obtain ⟨data, hdata, rfl⟩ := List.mem_map.mp hblock
  show max 0 data.surplusW = max 0 (data.solarW - data.houseW - inputs.higherPriorityLoadsW)
  rw [surplusW_blocksData data hdata]

end EnergyCore.FlexibleLoads
