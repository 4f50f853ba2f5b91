import EnergyCore.FlexibleLoads.LoadTypes

/-!
# What a block costs and scores

The urgency of a deadline, the cost of a load in a block of the horizon, and the score of the block.
-/

namespace EnergyCore.FlexibleLoads

/-! ### Urgency -/

inductive DeadlineTier where
  | critical
  | urgent
  | moderate
  | relaxed
  deriving Repr, DecidableEq

structure DeadlineUrgency where
  hoursRemaining : ℚ
  tier : DeadlineTier
  costCeilingSekKwh : Option ℚ
  minScore : ℚ
  runRegardless : Bool
  deriving Repr, DecidableEq

def computeDeadlineUrgency (now deadline : Instant) : DeadlineUrgency :=
  let hours := max 0 ((deadline - now) / 3600)
  if hours < 2 then
    { hoursRemaining := hours, tier := .critical, costCeilingSekKwh := none, minScore := -999, runRegardless := true }
  else if hours < 6 then
    { hoursRemaining := hours, tier := .urgent, costCeilingSekKwh := some 8, minScore := -50, runRegardless := false }
  else if hours < 12 then
    { hoursRemaining := hours, tier := .moderate, costCeilingSekKwh := some 5, minScore := 0, runRegardless := false }
  else
    { hoursRemaining := hours, tier := .relaxed, costCeilingSekKwh := some 3, minScore := 20, runRegardless := false }

/-! ### Costs -/

structure BlockLoadCost where
  primarySource : EnergySource
  marginalCostSekKwh : ℚ
  solarShare : ℚ
  batteryShare : ℚ
  gridShare : ℚ
  deriving Repr, DecidableEq

/-- What the optimizer is set up with, and the exchange rate of the settings. -/
structure OptimizerSettings where
  allowBattery : Bool := true
  preferSolar : Bool := true
  minBatterySocPct : ℚ := 40
  fallbackPriceSekKwh : ℚ := 2
  eurToSekRate : ℚ := 11
  deriving Repr, DecidableEq

def priceEurKwh (block : HorizonBlock) : Option ℚ := orNonzero block.allInPriceEurKwh block.spotPriceEurKwh

/-- `battery_cost_basis_sek_kwh`. -/
def batteryCostBasisSekKwh : ℚ := 3 / 2

def computeBlockLoadCost (settings : OptimizerSettings) (block : HorizonBlock) (loadPowerW : ℚ) : BlockLoadCost :=
  let loadKw := loadPowerW / 1000
  let surplusKw := max 0 (block.availableSurplusW / 1000)
  let solarKw := min loadKw surplusKw
  let remainingKw := loadKw - solarKw
  let batteryKw :=
    if 0 < remainingKw ∧ settings.allowBattery = true ∧
        block.batterySocPct.any (fun soc => decide (settings.minBatterySocPct ≤ soc)) = true then
      min remainingKw 2
    else 0
  let gridKw := max 0 (remainingKw - batteryKw)
  let totalKw := max loadKw (1 / 1000)
  let solarShare := solarKw / totalKw
  let batteryShare := batteryKw / totalKw
  let gridShare := gridKw / totalKw
  let gridCost := (priceEurKwh block).elim settings.fallbackPriceSekKwh fun price => price * settings.eurToSekRate
  let effectiveSolarCost := max 0 (block.exportValueSekKwh * (1 / 2))
  { primarySource :=
      if solarShare ≥ 4 / 5 then .solar
      else if batteryShare ≥ 1 / 2 then .battery
      else if gridShare ≥ 4 / 5 then .grid
      else .mixed
    marginalCostSekKwh :=
      solarShare * effectiveSolarCost + batteryShare * batteryCostBasisSekKwh + gridShare * gridCost
    solarShare := solarShare
    batteryShare := batteryShare
    gridShare := gridShare }

/-! ### Scores -/

structure ScoringWeights where
  solarSurplus : ℚ := 3
  lowPrice : ℚ := 2
  batteryAvailability : ℚ := 1
  deadline : ℚ := 5 / 2
  gridImport : ℚ := 2
  batteryDepletion : ℚ := 3 / 2
  exportOpportunity : ℚ := 1
  deriving Repr, DecidableEq

def defaultWeights : ScoringWeights := {}

/-- `RED_PRICE_RATIO`. -/
def redPriceRatio : ℚ := 115 / 100

def solarSurplusScore (weights : ScoringWeights) (surplusKw loadKw : ℚ) : ℚ :=
  if surplusKw ≥ loadKw then weights.solarSurplus * min (surplusKw / max loadKw (1 / 1000)) 3
  else if surplusKw > 0 then weights.solarSurplus * (surplusKw / max loadKw (1 / 1000)) * (1 / 2)
  else 0

def lowPriceScore (weights : ScoringWeights) (block : HorizonBlock) : ℚ :=
  match priceEurKwh block with
  | none => 0
  | some price =>
    if block.priceEstimated then 0
    else if price ≤ 15 / 100 then weights.lowPrice * 2
    else if price ≤ 25 / 100 then weights.lowPrice
    else if price ≥ 35 / 100 * redPriceRatio then -weights.lowPrice
    else 0

/-- The score of what the battery holds, and the penalty for running it down. -/
def batteryScores (weights : ScoringWeights) (settings : OptimizerSettings) (block : HorizonBlock) : ℚ × ℚ :=
  match block.batterySocPct with
  | none => (0, 0)
  | some soc =>
    if soc ≥ settings.minBatterySocPct + 20 then (weights.batteryAvailability, 0)
    else if soc ≥ settings.minBatterySocPct ∧ settings.allowBattery = true then
      (weights.batteryAvailability * (1 / 2), 0)
    else if soc < settings.minBatterySocPct then (0, weights.batteryDepletion * 2)
    else if soc < settings.minBatterySocPct + 10 then (0, weights.batteryDepletion)
    else (0, 0)

def scoreBlock (weights : ScoringWeights) (settings : OptimizerSettings) (block : HorizonBlock) (load : FlexibleLoad)
    (urgency : DeadlineUrgency) (loadCost : BlockLoadCost) : ScoredBlock :=
  let surplusKw := block.availableSurplusW / 1000
  let loadKw := load.nominalPowerW / 1000
  let solar := solarSurplusScore weights surplusKw loadKw
  let lowPrice := lowPriceScore weights block
  let (batteryAvailability, batteryDepletion) := batteryScores weights settings block
  let deadline := weights.deadline * max 0 (1 - urgency.hoursRemaining / 24)
  let gridImport := if surplusKw < loadKw then weights.gridImport * (loadKw - max 0 surplusKw) else 0
  let exportOpportunity :=
    if surplusKw > loadKw ∧ block.exportValueSekKwh > 0 then weights.exportOpportunity * (surplusKw - loadKw) else 0
  let total := solar + lowPrice + batteryAvailability + deadline - gridImport - batteryDepletion - exportOpportunity
  { block := block
    score := if block.priceEstimated then total * (7 / 10) else total
    solarSurplusScore := solar
    lowPriceScore := lowPrice
    batteryAvailabilityScore := batteryAvailability
    deadlineScore := deadline
    gridImportPenalty := gridImport
    batteryDepletionPenalty := batteryDepletion
    exportOpportunityPenalty := exportOpportunity
    expectedEnergySource := loadCost.primarySource
    marginalCostSekKwh := loadCost.marginalCostSekKwh
    loadFeasible :=
      if urgency.costCeilingSekKwh.any (fun ceiling => decide (ceiling < loadCost.marginalCostSekKwh)) = true ∧
          urgency.runRegardless = false then
        decide (0 < solar)
      else true }

end EnergyCore.FlexibleLoads
